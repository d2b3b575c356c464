import Companion.Proofs.Project.Discovery
import Companion.Proofs.Project.Saving

/-! Which declaration files are stale after a run without an error was recorded and saved.

The sources whose digests are taken are those that some declaration is from, while staleness is
asked of all sources. So a file without declarations stays as it was.
-/

set_option autoImplicit false

namespace Companion

/-- Some declaration is from a file. -/
def DeclarationSource.AnyFrom (sources : List DeclarationSource) (path : String) : Prop :=
  ∃ source ∈ sources, source.path = some path ∧ source.declarations ≠ []

instance (sources : List DeclarationSource) (path : String) :
    Decidable (DeclarationSource.AnyFrom sources path) := by
  unfold DeclarationSource.AnyFrom
  infer_instance

variable {σ : Type} {h : Host (StateM σ)} {contents : σ → String → Except FileError String}
  {known known' : Metadata} {base dir : String} {s s' t : σ}

theorem eq_ok_of_toOption_eq_some {ε α : Type} {x : Except ε α} {a : α} (h : x.toOption = some a) :
    x = .ok a := by
  cases x with
  | error e => cases h
  | ok b => exact congrArg Except.ok (Option.some.inj h)

namespace Steps

variable {α : Type}

/-- What is kept of a list by looking at the items one by one. -/
theorem run_filterM {f : α → StateM σ Bool} {keeps : α → Bool} {s : σ}
    (looks : ∀ a, (f a).run s = (keeps a, s)) (xs : List α) :
    (xs.filterM fun a => (liftM (f a) : Steps (StateM σ) Bool)).run.run s =
      (.ok (xs.filter keeps), s) := by
  have kept (found : List α) :
      (xs.filterAuxM (fun a => (liftM (f a) : Steps (StateM σ) Bool)) found).run.run s =
        (.ok ((xs.filter keeps).reverse ++ found), s) := by
    induction xs generalizing found with
    | nil => rfl
    | cons a xs ih =>
      rw [List.filterAuxM, run_bind, run_lift, looks]
      cases keep : keeps a <;> simp [ih, keep]
  rw [List.filterM, run_bind, kept, List.append_nil]
  simp only [List.reverse_reverse]
  rfl

end Steps

namespace Metadata

/-- Paths of one place in the metadata, or of one file, are written alike. -/
def PathsApart (base : String) (paths : List String) : Prop :=
  ∀ a ∈ paths, ∀ b ∈ paths,
    (Path.same a b = true ∨ sourceKey? base a ≠ none ∧ sourceKey? base a = sourceKey? base b) →
      a = b

instance (base : String) (paths : List String) : Decidable (PathsApart base paths) := by
  unfold PathsApart
  infer_instance

/-- Whether a file is stale, where that is looked at without changing anything. -/
def staleAt (known : Metadata) (contents : String → Except FileError String)
    (base source : String) : Bool :=
  match sourceKey? base source with
  | none => true
  | some key => known.sourceHashes.get? key != some (digest (contents source))

theorem staleAt_empty (time : Int) (contents : String → Except FileError String)
    (base source : String) : (empty time).staleAt contents base source = true := by
  unfold staleAt
  cases sourceKey? base source <;> rfl

/-- The stale ones of some sources, from what was loaded. -/
theorem run_staleSources (stores : h.Stores contents) {found : Option Metadata} (time : Int)
    (base : String) (loaded : (load h dir).run.run s = (.ok found, s)) (sources : List String) :
    (staleSources h sources base dir).run.run s =
      (.ok (sources.filter ((found.getD (empty time)).staleAt (contents s) base)), s) := by
  unfold staleSources
  rw [Steps.run_bind, loaded]
  cases found with
  | none =>
    have all : sources.filter ((empty time).staleAt (contents s) base) = sources :=
      List.filter_eq_self.mpr fun source _ => staleAt_empty time _ base source
    rw [Option.getD_none, all]
    rfl
  | some known =>
    exact Steps.run_filterM (fun source => run_isStale stores.toReads known base source s) sources

end Metadata

namespace Command

open Metadata

/-- A run is remembered by loading what is known, recording the run and saving that. -/
theorem remember_eq_ok (stores : h.Stores contents) {p : Project} {report : Report}
    (remembered : (remember h p report).run.run s = (.ok (), s')) :
    ∃ found known, (load h p.config.outputDir).run.run s = (.ok found, s) ∧
      ((found.getD (empty (h.now.run s).1)).record h p.baseDir report).run s =
        ((.ok (), known), s) ∧
      (known.save h p.config.outputDir).run.run s = (.ok (), s') := by
  obtain ⟨found, after, loaded, rest⟩ := Steps.bind_eq_ok remembered
  obtain ⟨rfl, -⟩ := load_eq_ok stores loaded
  obtain ⟨time, middle, noted, rest⟩ := Steps.bind_eq_ok rest
  rw [Steps.run_lift] at noted
  obtain ⟨told, rfl⟩ := Prod.mk.inj noted
  obtain rfl : (h.now.run after).1 = time := Except.ok.inj told
  rw [stores.now] at rest
  obtain ⟨⟨result, known⟩, last, recorded, saved⟩ := Steps.bind_eq_ok rest
  rw [Steps.run_lift] at recorded
  obtain ⟨answer, ends⟩ := Prod.mk.inj recorded
  cases result with
  | error e => cases saved
  | ok done =>
    have ran : ((found.getD (empty (h.now.run after).1)).record h p.baseDir report).run after =
        ((.ok (), known), last) := Prod.ext (Except.ok.inj answer) ends
    obtain rfl : last = after := (record_eq_ok stores.toReads ran).1
    exact ⟨found, known, loaded, ran, saved⟩

/-- What is stale after a run was remembered, and what was before. -/
theorem exists_stale (stores : h.Stores contents) (clock : ∀ s, isTime (h.now.run s).1 = true)
    {p : Project} {report : Report} (inside : ∀ source ∈ report.sources, source ∈ p.sources)
    (remembered : (remember h p report).run.run s = (.ok (), s'))
    (unchanged : ∀ source ∈ p.sources, contents t source = contents s source)
    (kept : contents t (Path.join p.config.outputDir metadataFile) =
      contents s' (Path.join p.config.outputDir metadataFile)) :
    (∀ source ∈ soundSources report, (sourceKey? p.baseDir source).isSome = true) ∧
      ∃ stale : String → Bool,
        (staleSources h p.sources p.baseDir p.config.outputDir).run.run s =
          (.ok (p.sources.filter stale), s) ∧
        (staleSources h p.sources p.baseDir p.config.outputDir).run.run t =
          (.ok (p.sources.filter fun source => (taken? report p.baseDir source).elim (stale source)
            fun last => digest (contents t last) != digest (contents t source)), t) := by
  obtain ⟨found, known, begins, recorded, saved⟩ := remember_eq_ok stores remembered
  have ordered : (found.getD (empty (h.now.run s).1)).Ordered := by
    cases found with
    | none => exact ordered_empty _
    | some m => exact (load_eq_ok stores begins).2 m rfl
  obtain ⟨inOrder, time⟩ := ordered.record stores.toReads recorded
  have ends := load_saved stores inOrder (time ▸ clock s) saved kept
  refine ⟨(record_eq_ok stores.toReads recorded).2.1, _,
    run_staleSources stores (h.now.run s).1 p.baseDir begins p.sources, ?_⟩
  rw [run_staleSources stores 0 p.baseDir ends, Option.getD_some]
  congr 2
  refine List.filter_congr fun source member => ?_
  have stale := isStale_recorded stores.toReads recorded source
  rw [run_isStale stores.toReads, run_isStale stores.toReads] at stale
  have same : known.staleAt (contents t) p.baseDir source =
      known.staleAt (contents s) p.baseDir source := by
    rw [staleAt, staleAt, unchanged source member]
  refine same.trans (stale.trans ?_)
  cases taken : taken? report p.baseDir source with
  | none => rfl
  | some last =>
    have last' := inside last (sound_of_mem_soundSources (mem_of_taken? taken).1).1
    rw [Option.elim_some, Option.elim_some, unchanged source member, unchanged last last']

/-- The sources of a run are among those of its project. -/
theorem mem_sources_of_ends {τ υ : Type} {layout : String → String} {config : Config}
    {sink : Sink (StateM τ)} {host : Host (StateM υ)} {p : Project}
    {sources : List DeclarationSource} {report : Report} {e : Ending τ} {u : τ} {v v' : υ}
    (loaded : (p.loadSources host).run.run v = (.ok sources, v'))
    (ended : (Run.ofSourcesWith layout config sources).Ends sink u e)
    (reported : e.result = .ok report) (source : String) :
    (source ∈ report.sources ↔ DeclarationSource.AnyFrom sources source) ∧
      (source ∈ report.sources → source ∈ p.sources) := by
  have listed : source ∈ report.sources ↔ DeclarationSource.AnyFrom sources source :=
    (Run.settles_report ended reported).mem_sources_iff
  refine ⟨listed, fun member => ?_⟩
  have yields : (p.loadSources host).Yields (fun sources =>
      ∀ source ∈ sources, ∃ path ∈ p.sources, source.path = some path) fun _ _ => True :=
    p.yields_loadSources
  have paths := yields v
  rw [loaded] at paths
  obtain ⟨file, inside, named, -⟩ := listed.mp member
  obtain ⟨path, known, same⟩ := paths file inside
  cases same.symm.trans named
  exact known

/-- Of a run without an error the digest of each source is taken, in its own place. -/
theorem taken?_of_generated {report : Report} {paths : List String} (apart : PathsApart base paths)
    (inside : ∀ source ∈ report.sources, source ∈ paths)
    (generated : ∀ d ∈ report.declarations, d.outcome = .generated)
    (placed : ∀ source ∈ soundSources report, (sourceKey? base source).isSome = true)
    {source : String} (member : source ∈ paths) :
    taken? report base source = if source ∈ report.sources then some source else none := by
  split
  · next named =>
    have apart' : report.SourcesApart base := fun a first b second =>
      apart a (inside a first) b (inside b second)
    have fine : ¬report.Fails source := fun ⟨d, member, failed, _⟩ => failed (generated d member)
    rw [taken?_eq apart' named placed, if_neg fine]
  · next other =>
    -- A source with the place of this one would be this one, which the run has no record from.
    by_contra taken
    obtain ⟨last, found⟩ := Option.ne_none_iff_exists'.mp taken
    obtain ⟨sound, alike⟩ := mem_of_taken? found
    have named := (sound_of_mem_soundSources sound).1
    obtain rfl := apart source member last (inside last named) (.inr alike)
    exact other named

/-- After a run without an error was remembered, a file is stale if the digest taken last in its
place is not its own, and if none was taken, as it was before. So where the sources are written
alike if they are one, those are stale that were stale before and that no declaration is from: a
file without declarations is never seen as generated. -/
theorem staleSources_remembered {τ υ : Type} {layout : String → String} {config : Config}
    {sink : Sink (StateM τ)} {host : Host (StateM υ)} {p : Project}
    {sources : List DeclarationSource} {report : Report} {e : Ending τ} {u : τ} {v v' : υ}
    (stores : h.Stores contents) (clock : ∀ s, isTime (h.now.run s).1 = true)
    (loaded : (p.loadSources host).run.run v = (.ok sources, v'))
    (ended : (Run.ofSourcesWith layout config sources).Ends sink u e)
    (reported : e.result = .ok report)
    (generated : ∀ d ∈ report.declarations, d.outcome = .generated)
    (remembered : (remember h p report).run.run s = (.ok (), s'))
    (unchanged : ∀ source ∈ p.sources, contents t source = contents s source)
    (kept : contents t (Path.join p.config.outputDir metadataFile) =
      contents s' (Path.join p.config.outputDir metadataFile)) :
    ∃ before, (staleSources h p.sources p.baseDir p.config.outputDir).run.run s = (.ok before, s) ∧
      (staleSources h p.sources p.baseDir p.config.outputDir).run.run t =
        (.ok (p.sources.filter fun source => (taken? report p.baseDir source).elim
          (before.contains source) fun last =>
            digest (contents t last) != digest (contents t source)), t) ∧
      (PathsApart p.baseDir p.sources →
        (staleSources h p.sources p.baseDir p.config.outputDir).run.run t =
          (.ok (before.filter fun source => ¬DeclarationSource.AnyFrom sources source), t)) := by
  have named := mem_sources_of_ends loaded ended reported
  obtain ⟨placed, stale, before, after⟩ := exists_stale stores clock
    (fun source => (named source).2) remembered unchanged kept
  have known (source : String) (member : source ∈ p.sources) :
      (p.sources.filter stale).contains source = stale source := by
    rw [Bool.eq_iff_iff, List.contains_iff_mem, List.mem_filter]
    exact and_iff_right member
  refine ⟨_, before, ?_, fun apart => ?_⟩
  · rw [after]
    congr 2
    exact List.filter_congr fun source member => by rw [known source member]
  · rw [after, List.filter_filter]
    congr 2
    refine List.filter_congr fun source member => ?_
    rw [taken?_of_generated apart (fun source => (named source).2) generated placed member]
    by_cases listed : DeclarationSource.AnyFrom sources source
    · simp [(named source).1, listed]
    · simp [(named source).1, listed]

/-- A file with a declaration that is generated, and a file without declarations, which stays
stale. -/
theorem staleSources_remembered_empty :
    let tree : FileTree := ⟨.ofList [("a.decl.yaml",
      .file "declarations: [\x7bname: A, generate: [subclass]\x7d]\n"),
      ("b.decl.yaml", .file "declarations: []\n")]⟩
    let host := FileTree.host 0
    let config : Config := { Config.standard with outputDir := "./generated" }
    let p : Project := ⟨".", config, ["./a.decl.yaml", "./b.decl.yaml"]⟩
    ∃ sources report after,
      let e := (Run.ofSources config sources).inTurn (host.sink config.outputDir) tree
      ((p.loadSources host).run.run tree).1 = .ok sources ∧ e.result = .ok report ∧
        (∀ d ∈ report.declarations, d.outcome = .generated) ∧
        (remember host p report).run.run e.sinkState = (.ok (), after) ∧
        (staleSources host p.sources p.baseDir config.outputDir).run.run after =
          (.ok ["./b.decl.yaml"], after) := by
  intro tree host config p
  have ran : ((p.loadSources host).run.run tree).1.toOption.any (fun sources =>
      let r := Run.ofSources config sources
      let e := r.inTurn (host.sink config.outputDir) tree
      e.result.toOption.any fun report =>
        let x := (remember host p report).run.run e.sinkState
        r.workerCount = 1 ∧ (∀ d ∈ report.declarations, d.outcome = .generated) ∧
          x.1.toOption = some () ∧
          (∀ source ∈ p.sources, (e.sinkState.read source).toOption.any fun text =>
            (x.2.read source).toOption = some text) ∧
          ((staleSources host p.sources p.baseDir config.outputDir).run.run
            e.sinkState).1.toOption = some p.sources ∧
          (p.sources.filter fun source => ¬DeclarationSource.AnyFrom sources source) =
            ["./b.decl.yaml"]) = true := by decide +kernel
  obtain ⟨sources, loaded, ran⟩ := (Option.any_eq_true _ _).mp ran
  obtain ⟨report, reported, ran⟩ := (Option.any_eq_true _ _).mp ran
  obtain ⟨alone, generated, remembered, unchanged, first, left⟩ := of_decide_eq_true ran
  have loaded := eq_ok_of_toOption_eq_some loaded
  have reported := eq_ok_of_toOption_eq_some reported
  have saved : (remember host p report).run.run _ = (.ok (), _) :=
    Prod.ext (eq_ok_of_toOption_eq_some remembered) rfl
  refine ⟨sources, report, _, loaded, reported, generated, saved, ?_⟩
  obtain ⟨before, stale, -, after⟩ := staleSources_remembered (FileTree.stores_host 0)
    (fun _ => show isTime 0 = true by decide) (Prod.ext loaded rfl) (.inTurn alone) reported
    generated saved (fun source member => by
      obtain ⟨text, old, new⟩ := (Option.any_eq_true _ _).mp (unchanged source member)
      rw [eq_ok_of_toOption_eq_some old, eq_ok_of_toOption_eq_some (of_decide_eq_true new)]) rfl
  rw [stale] at first
  obtain rfl : before = p.sources := Option.some.inj first
  rw [after (by decide +kernel), left]

end Command

end Companion

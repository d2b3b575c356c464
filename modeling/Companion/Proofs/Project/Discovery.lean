import Companion.CommandLine.Execute
import Companion.Files.Tree
import Companion.Proofs.Files.Path
import Companion.Proofs.Generate.Records
import Companion.Proofs.Project.Staleness
import Companion.Proofs.Results

/-! Where the sources of a project are found, and whether metadata can name them.

Sources lie in the input. The nearest configuration is in a directory of the input, so that its
directory holds all sources. That of a configuration that was asked for can be anywhere.
-/

set_option autoImplicit false

namespace Companion

variable {σ α β : Type}

/-! ### What steps give -/

/-- What is given has a property, and so has a path that is refused because it lies outside a
directory. -/
def Answers (given : α → Prop) (refused : String → String → Prop) : Except ProjectError α → Prop
  | .ok a => given a
  | .error (.outside path base) => refused path base
  | .error _ => True

/-- Steps answer like this, whatever they start from. -/
def Steps.Yields (x : Steps (StateM σ) α) (given : α → Prop) (refused : String → String → Prop) :
    Prop :=
  ∀ s, Answers given refused (x.run.run s).1

theorem Answers.imp {given given' : α → Prop} {refused refused' : String → String → Prop}
    {answer : Except ProjectError α} (known : Answers given refused answer)
    (gives : ∀ a, given a → given' a) (refuses : ∀ path base, refused path base → refused' path base) :
    Answers given' refused' answer := by
  cases answer with
  | ok a => exact gives a known
  | error e =>
    cases e with
    | outside path base => exact refuses path base known
    | _ => trivial

namespace Steps

variable {x : Steps (StateM σ) α} {given : α → Prop} {given' : β → Prop}
  {refused : String → String → Prop}

theorem yields_pure {a : α} (known : given a) :
    Yields (pure a : Steps (StateM σ) α) given refused :=
  fun _ => known

theorem yields_throw {e : ProjectError} (other : ∀ path base, e ≠ .outside path base) :
    Yields (throw e : Steps (StateM σ) α) given refused := by
  intro s
  cases e with
  | outside path base => exact absurd rfl (other path base)
  | _ => trivial

theorem yields_ofFile (y : StateM σ (Except FileError α))
    (known : ∀ s a, (y.run s).1 = .ok a → given a) : (ofFile y).Yields given refused := by
  intro s
  have ran : ((ofFile y).run.run s).1 = (y.run s).1.mapError .file := rfl
  rw [ran]
  cases found : (y.run s).1 with
  | error e => trivial
  | ok a => exact known s a found

theorem yields_lift (given : α → Prop) (y : StateM σ α) (known : ∀ s, given (y.run s).1) :
    (liftM y : Steps (StateM σ) α).Yields given refused :=
  fun s => known s

theorem yields_ofFile_any (y : StateM σ (Except FileError α)) :
    (ofFile y).Yields (fun _ => True) refused :=
  yields_ofFile y fun _ _ _ => trivial

theorem yields_lift_any (y : StateM σ α) :
    (liftM y : Steps (StateM σ) α).Yields (fun _ => True) refused :=
  yields_lift _ y fun _ => trivial

theorem Yields.bind {f : α → Steps (StateM σ) β} (first : x.Yields given refused)
    (next : ∀ a, given a → (f a).Yields given' refused) : (x >>= f).Yields given' refused := by
  intro s
  rw [run_bind]
  have known := first s
  cases ended : x.run.run s with
  | mk result after =>
    rw [ended] at known
    cases result with
    | ok a => exact next a known after
    | error e => cases e <;> exact known

theorem Yields.imp {given' : α → Prop} {refused' : String → String → Prop}
    (known : x.Yields given refused) (gives : ∀ a, given a → given' a)
    (refuses : ∀ path base, refused path base → refused' path base) : x.Yields given' refused' :=
  fun s => (known s).imp gives refuses

theorem yields_mapM (given' : β → Prop) {xs : List α} {f : α → Steps (StateM σ) β}
    (each : ∀ a ∈ xs, (f a).Yields given' refused) :
    (xs.mapM f).Yields (fun bs => ∀ b ∈ bs, given' b) refused := by
  induction xs with
  | nil => exact yields_pure nofun
  | cons a xs ih =>
    obtain ⟨first, others⟩ := List.forall_mem_cons.mp each
    rw [List.mapM_cons]
    exact first.bind fun b known => (ih others).bind fun bs all =>
      yields_pure (List.forall_mem_cons.mpr ⟨known, all⟩)

end Steps

open Steps

/-- Names that are listed are seen from their directory. -/
def Host.ListsNames (h : Host (StateM σ)) : Prop :=
  ∀ path s names, ((h.list path).run s).1 = .ok names → ∀ name ∈ names, Path.isAbsolute name = false

theorem FileTree.listsNames_host (time : Int) : (FileTree.host time).ListsNames := by
  intro path tree names ran name member
  have listed : tree.list path = .ok names := ran
  unfold FileTree.list at listed
  obtain ⟨found, -, children⟩ := bind_eq_ok.mp listed
  obtain ⟨place, entry⟩ := found
  obtain rfl : tree.children place = names := by
    rcases entry with _ | _ | _ <;> cases children
    rfl
  obtain ⟨key, -, kept⟩ := List.mem_filterMap.mp member
  obtain ⟨-, single⟩ := Option.filter_eq_some_iff.mp kept
  rw [Bool.eq_false_iff]
  intro absolute
  obtain ⟨rest, known⟩ := List.isPrefixOf_iff_prefix.mp absolute
  simp [← known] at single

variable {h : Host (StateM σ)} {refused : String → String → Prop}

namespace Config

theorem yields_load (path : String) : (load h path).Yields (fun _ => True) refused := by
  unfold load
  refine (yields_ofFile_any _).bind fun text _ => ?_
  split
  · exact yields_throw nofun
  · split <;> exact yields_pure trivial

end Config

namespace Project

theorem isPart_fileName : Path.IsPart Config.fileName := ⟨by decide, by decide, by decide⟩

/-- Declaration files are found in the directory that is searched. -/
theorem yields_collect (lists : h.ListsNames) (outputDir : String) (depth : Nat) (dir : String) :
    (collect h outputDir depth dir).Yields (fun found => ∀ path ∈ found, Path.Within dir path)
      refused := by
  induction depth generalizing dir with
  | zero => exact yields_pure nofun
  | succ depth ih =>
    unfold collect
    have listed : (ofFile (h.list dir)).Yields
        (fun names => ∀ name ∈ names, Path.isAbsolute name = false) refused :=
      yields_ofFile _ fun s names ran => lists dir s names ran
    refine listed.bind fun names relative => ?_
    refine (yields_mapM (fun found => ∀ path ∈ found, Path.Within dir path)
      fun path member => ?_).bind fun found within => yields_pure fun path inside => ?_
    · obtain ⟨listed, -⟩ := List.mem_filter.mp member
      obtain ⟨name, named, rfl⟩ := List.mem_map.mp listed
      have under := Path.within_join (relative name named) dir
      refine (yields_lift_any _).bind fun isDir _ => ?_
      cases isDir with
      | true => exact (ih _).imp (fun _ all path inside => under.trans (all path inside)) fun _ _ => id
      | false =>
        refine yields_pure ?_
        split
        · simpa using under
        · exact nofun
    · obtain ⟨paths, listed, inside⟩ := List.mem_flatten.mp inside
      exact within paths listed path inside

/-- Of some files the first is found, and it is one of them. -/
theorem firstFile_mem (paths : List String) (s : σ) :
    ∀ path, ((firstFile h paths).run s).1 = some path → path ∈ paths := by
  induction paths generalizing s with
  | nil => exact nofun
  | cons path paths ih =>
    intro found known
    unfold firstFile at known
    rw [StateT.run_bind] at known
    cases isFile : (h.isFile path).run s with
    | mk answer after =>
      rw [isFile] at known
      cases answer with
      | true =>
        cases known
        exact List.mem_cons_self ..
      | false => exact List.mem_cons_of_mem _ (ih after found known)

theorem yields_configured (path : String) :
    (configured h path).Yields (fun found => found.2 = Path.parent path) refused :=
  (Config.yields_load path).bind fun _ _ => yields_pure rfl

/-- The nearest configuration is for a directory that the search started in or below. -/
theorem yields_nearestConfig (dir : String) :
    (nearestConfig h dir).Yields (fun found => Path.Within found.2 dir) refused := by
  unfold nearestConfig
  have above : (liftM (findConfig h dir) : Steps (StateM σ) _).Yields
      (fun found => ∀ path, found = some path → Path.Within (Path.parent path) dir) refused := by
    refine yields_lift _ _ fun s path found => ?_
    obtain ⟨outer, above, rfl⟩ := List.mem_map.mp (firstFile_mem _ s path found)
    rw [Path.Within, Path.components_parent_join isPart_fileName]
    exact Path.within_of_mem_ancestors above
  refine above.bind fun found under => ?_
  cases found with
  | none => exact yields_pure (Path.within_refl dir)
  | some path =>
    exact (yields_configured path).imp (fun _ same => same ▸ under path rfl) fun _ _ => id

/-- What is true of the project that is found from an input. -/
structure IsFound (input : String) (configPath : Option String) (p : Project) : Prop where
  inInput : ∀ source ∈ p.sources, Path.Within input source
  nearest : configPath = none → ∀ source ∈ p.sources, Path.Within p.baseDir source
  given : ∀ path, configPath = some path → p.baseDir = Path.parent path

theorem yields_configure (dir : String) (configPath : Option String) :
    (configure h dir configPath).Yields (fun found =>
      (configPath = none → Path.Within found.2 dir) ∧
        ∀ path, configPath = some path → found.2 = Path.parent path) refused := by
  cases configPath with
  | none => exact (yields_nearestConfig dir).imp (fun _ under => ⟨fun _ => under, nofun⟩) fun _ _ => id
  | some path =>
    refine (yields_configured path).imp (fun _ same => ⟨nofun, fun other known => ?_⟩) fun _ _ => id
    cases known
    exact same

theorem yields_discover (lists : h.ListsNames) (input : String) (configPath : Option String) :
    (discover h input configPath).Yields (IsFound input configPath) refused := by
  unfold discover
  refine (yields_lift_any _).bind fun kind _ => ?_
  match kind with
  | none => exact yields_throw nofun
  | some .directory =>
    refine (yields_configure input configPath).bind fun found known => ?_
    refine (yields_collect lists _ _ input).bind fun paths under => yields_pure ?_
    have sorted (path : String) : path ∈ paths.mergeSort Path.before → Path.Within input path :=
      fun member => under path (List.mem_mergeSort.mp member)
    exact ⟨sorted, fun none source member => (known.1 none).trans (sorted source member), known.2⟩
  | some .file =>
    refine (yields_configure _ configPath).bind fun found known => yields_pure ?_
    refine ⟨List.forall_mem_singleton.mpr (Path.within_refl input), fun none => ?_, known.2⟩
    exact List.forall_mem_singleton.mpr ((known.1 none).trans (Path.within_parent input))

/-- The directory that metadata is for holds all sources if it holds the input, and none if neither of
the two holds the other. -/
theorem IsFound.within_cases {input : String} {configPath : Option String} {p : Project}
    (found : p.IsFound input configPath) :
    (Path.Within p.baseDir input → ∀ source ∈ p.sources, Path.Within p.baseDir source) ∧
    (¬Path.Within p.baseDir input → ¬Path.Within input p.baseDir →
      ∀ source ∈ p.sources, ¬Path.Within p.baseDir source) := by
  refine ⟨fun above source member => above.trans (found.inInput source member),
    fun above below source member within => ?_⟩
  exact (List.prefix_or_prefix_of_prefix within (found.inInput source member)).elim above below

theorem yields_loadSources (p : Project) :
    (p.loadSources h).Yields
      (fun sources => ∀ source ∈ sources, ∃ path ∈ p.sources, source.path = some path) refused := by
  refine yields_mapM _ fun path member => ?_
  unfold DeclarationSource.load
  refine (yields_ofFile_any _).bind fun text _ => ?_
  unfold DeclarationSource.ofText
  split
  · next source read =>
    split at read <;> cases read
    exact yields_pure ⟨path, member, rfl⟩
  · exact yields_throw nofun

end Project

/-! ### Recording -/

/-- There is a job for each declaration, in order. -/
theorem Job.map_mark (seen : List String) (ds : List (DeclarationSource × Declaration)) :
    (mark seen ds).map (fun j => (j.source, j.declaration)) = ds := by
  induction ds generalizing seen with
  | nil => rfl
  | cons d ds ih => rw [mark, List.map_cons, ih]

/-- The sources of a report are those that list a declaration. -/
theorem Report.Settles.mem_sources_iff {report : Report} {sources : List DeclarationSource}
    (settles : report.Settles (Job.ofSources sources)) {path : String} :
    path ∈ report.sources ↔
      ∃ source ∈ sources, source.path = some path ∧ source.declarations ≠ [] := by
  have files : report.declarations.map (·.sourceFile) =
      (Job.ofSources sources).map (·.source.path) := by
    simpa [Function.comp_def] using congrArg (List.map Prod.snd) settles.inOrder
  have jobs : (Job.ofSources sources).map (·.source.path) =
      (sources.flatMap fun source => source.declarations.map fun d => (source, d)).map (·.1.path) := by
    conv_rhs => rw [← Job.map_mark [] (sources.flatMap _), List.map_map]
    rfl
  have named : path ∈ report.sources ↔ some path ∈ report.declarations.map (·.sourceFile) := by
    simp [Report.sources]
  rw [named, files, jobs]
  simp only [List.mem_map, List.mem_flatMap]
  constructor
  · rintro ⟨_, ⟨source, listed, d, inside, rfl⟩, known⟩
    exact ⟨source, listed, known, List.ne_nil_of_mem inside⟩
  · rintro ⟨source, listed, known, filled⟩
    obtain ⟨d, inside⟩ := List.exists_mem_of_ne_nil _ filled
    exact ⟨_, ⟨source, listed, d, inside, rfl⟩, known⟩

namespace Metadata

variable {known : Metadata} {base : String}

theorem isSome_sourceKey?_iff {source : String} :
    (sourceKey? base source).isSome = true ↔ Path.Within base source := by
  rw [sourceKey?, Option.isSome_map]
  exact Path.isSome_relativeTo?_iff

theorem yields_updateHash (known : Metadata) (base source : String) :
    (known.updateHash h base source).Yields (fun _ => Path.Within base source)
      fun path dir => path = source ∧ dir = base ∧ ¬Path.Within base source := by
  unfold updateHash
  cases place : sourceKey? base source with
  | none =>
    have outside : ¬Path.Within base source := by
      rw [← isSome_sourceKey?_iff, place]
      nofun
    exact fun _ => ⟨rfl, rfl, outside⟩
  | some key =>
    have within := isSome_sourceKey?_iff.mp (Option.isSome_of_eq_some place)
    have hashed : (hashFile h source).Yields (fun _ => True)
        (fun path dir => path = source ∧ dir = base ∧ ¬Path.Within base source) :=
      (yields_ofFile_any _).bind fun _ _ => yields_pure trivial
    exact hashed.bind fun _ _ => yields_pure within

theorem answers_updateHashes (known : Metadata) (base : String) (sources : List String) (t : σ) :
    Answers (fun _ => ∀ source ∈ sources, Path.Within base source)
      (fun path dir => path ∈ sources ∧ dir = base ∧ ¬Path.Within base path)
      ((known.updateHashes h base sources).run t).1.1 := by
  induction sources generalizing known t with
  | nil => exact nofun
  | cons source others ih =>
    have first := yields_updateHash (h := h) known base source t
    rw [updateHashes, StateT.run_bind]
    cases ended : (known.updateHash h base source).run.run t with
    | mk result after =>
      rw [ended] at first
      cases result with
      | ok next =>
        exact (ih next after).imp
          (fun _ all => List.forall_mem_cons.mpr ⟨first, all⟩)
          fun _ _ refused => ⟨List.mem_cons_of_mem _ refused.1, refused.2⟩
      | error e =>
        cases e with
        | outside path dir =>
          obtain ⟨rfl, same, outside⟩ := first
          exact ⟨List.mem_cons_self .., same, outside⟩
        | _ => trivial

/-- A run is recorded only if all sources without an error lie in the directory, and a path that is
refused is one of them that does not. -/
theorem answers_record (known : Metadata) (base : String) (r : Report) (t : σ) :
    Answers (fun _ => ∀ source ∈ soundSources r, Path.Within base source)
      (fun path dir => path ∈ soundSources r ∧ dir = base ∧ ¬Path.Within base path)
      ((known.record h base r).run t).1.1 := by
  have answers :=
    answers_updateHashes (h := h) (r.declarations.foldl recordFiles known) base (soundSources r) t
  unfold record
  simp only [StateT.run_bind]
  cases ended : ((r.declarations.foldl recordFiles known).updateHashes h base (soundSources r)).run t with
  | mk answer after =>
    rw [ended] at answers
    obtain ⟨result, next⟩ := answer
    cases result <;> exact answers

theorem yields_load (dir : String) : (load h dir).Yields (fun _ => True) refused := by
  unfold load
  refine (yields_lift_any _).bind fun there _ => ?_
  split
  · refine (yields_ofFile_any _).bind fun text _ => ?_
    split
    · exact yields_pure trivial
    · exact yields_throw nofun
  · exact yields_pure trivial

theorem yields_save (dir : String) : (known.save h dir).Yields (fun _ => True) refused := by
  unfold save
  exact (yields_ofFile_any _).bind fun _ _ => yields_ofFile_any _

end Metadata

namespace Command

theorem yields_runProject (p : Project) (sink : Sink (StateM σ)) :
    (runProject h p sink).Yields (fun ran => ∀ source ∈ ran.1.sources, source ∈ p.sources)
      refused := by
  unfold runProject
  refine (Project.yields_loadSources p).bind fun sources loaded s => ?_
  have ran : ((ExceptT.mk (Except.mapError ProjectError.emission <$>
      ((Run.ofSources p.config sources).toSink sink).run)).run.run s).1 =
      (((Run.ofSources p.config sources).toSink sink).run.run s).1.mapError .emission := rfl
  rw [ran, Run.run_toSink]
  cases reported : ((Run.ofSources p.config sources).inTurn sink s).result with
  | error e => trivial
  | ok report =>
    intro source member
    obtain ⟨file, listed, named, -⟩ := (Run.settles_inTurn reported).mem_sources_iff.mp member
    obtain ⟨path, inside, same⟩ := loaded file listed
    cases same.symm.trans named
    exact inside

theorem yields_remember (p : Project) (report : Report) :
    (remember h p report).Yields
      (fun _ => ∀ source ∈ Metadata.soundSources report, Path.Within p.baseDir source)
      fun path dir => path ∈ Metadata.soundSources report ∧ dir = p.baseDir ∧
        ¬Path.Within p.baseDir path := by
  unfold remember
  refine (Metadata.yields_load _).bind fun found _ => ?_
  refine (yields_lift_any _).bind fun time _ => ?_
  refine (yields_lift (fun ended => Answers
    (fun _ => ∀ source ∈ Metadata.soundSources report, Path.Within p.baseDir source)
    (fun path dir => path ∈ Metadata.soundSources report ∧ dir = p.baseDir ∧
      ¬Path.Within p.baseDir path) ended.1) _
    (Metadata.answers_record _ p.baseDir report)).bind fun ended answers => ?_
  obtain ⟨result, known⟩ := ended
  cases result with
  | ok => exact (Metadata.yields_save _).imp (fun _ _ => answers) fun _ _ => id
  | error e => exact fun _ => answers

/-- Units are generated, and the run is recorded, unless a configuration that was asked for is in a
directory that does not hold the sources. -/
theorem yields_generateUnits (lists : h.ListsNames) (i : InputOptions) (o : OutputOptions) :
    (generateUnits h i o).Yields (fun _ => True) fun path dir =>
      ∃ config, i.config = some config ∧ dir = Path.parent config ∧ Path.Within i.input path ∧
        ¬Path.Within dir path := by
  unfold generateUnits
  refine (Project.yields_discover lists i.input i.config).bind fun p found => ?_
  split
  · exact yields_throw nofun
  · next merged _ =>
    refine (yields_runProject { p with config := merged } _).bind fun ran listed => ?_
    refine ((yields_remember { p with config := merged } ran.1).imp
      (fun _ sound => sound) ?_).bind fun _ _ => yields_pure trivial
    rintro path dir ⟨sound, same, outside⟩
    have member := listed path (Metadata.sound_of_mem_soundSources sound).1
    cases asked : i.config with
    | none => exact absurd (found.nearest asked path member) outside
    | some config =>
      refine ⟨config, rfl, same.trans (found.given config asked), found.inInput path member, ?_⟩
      exact same ▸ outside

/-- All sources lie in the input, and in the directory that metadata is for unless a configuration was
asked for that is elsewhere; then it depends on where that is. Recording a run of the project refuses
those sources only that lie outside, and generating is refused in no other case. -/
theorem outside_only_if_configured (lists : h.ListsNames) (i : InputOptions) :
    (∀ s p s', (Project.discover h i.input i.config).run.run s = (.ok p, s') →
      (∀ source ∈ p.sources, Path.Within i.input source) ∧
      (i.config = none → ∀ source ∈ p.sources, Path.Within p.baseDir source) ∧
      (∀ path, i.config = some path → p.baseDir = Path.parent path ∧
        (Path.Within p.baseDir i.input → ∀ source ∈ p.sources, Path.Within p.baseDir source) ∧
        (¬Path.Within p.baseDir i.input → ¬Path.Within i.input p.baseDir →
          ∀ source ∈ p.sources, ¬Path.Within p.baseDir source)) ∧
      ∀ (τ : Type) (layout : String → String) (config : Config) (sink : Sink (StateM τ))
        (sources : List DeclarationSource) (t t' : σ) (u : τ) (e : Ending τ) (report : Report)
        (known : Metadata) (v : σ),
        (p.loadSources h).run.run t = (.ok sources, t') →
        (Run.ofSourcesWith layout config sources).Ends sink u e → e.result = .ok report →
        (((known.record h p.baseDir report).run v).1.1 = .ok () →
          ∀ source ∈ Metadata.soundSources report, Path.Within p.baseDir source) ∧
        ∀ path dir, ((known.record h p.baseDir report).run v).1.1 = .error (.outside path dir) →
          i.config ≠ none ∧ dir = p.baseDir ∧ path ∈ p.sources ∧ ¬Path.Within p.baseDir path) ∧
    ∀ (o : OutputOptions) (s : σ) (path dir : String),
      ((generateUnits h i o).run.run s).1 = .error (.outside path dir) →
      ∃ config, i.config = some config ∧ dir = Path.parent config ∧ Path.Within i.input path ∧
        ¬Path.Within dir path := by
  refine ⟨fun s p s' discovered => ?_, fun o s path dir failed => ?_⟩
  · have known : (Project.discover h i.input i.config).Yields
        (Project.IsFound i.input i.config) fun _ _ => True :=
      Project.yields_discover lists i.input i.config
    have found := known s
    rw [discovered] at found
    refine ⟨found.inInput, found.nearest, fun path asked => ⟨found.given path asked, ?_⟩, ?_⟩
    · exact found.within_cases
    · intro τ layout config sink sources t t' u e report known v loaded ended reported
      have named : (p.loadSources h).Yields (fun sources =>
          ∀ source ∈ sources, ∃ path ∈ p.sources, source.path = some path) fun _ _ => True :=
        p.yields_loadSources
      have paths := named t
      rw [loaded] at paths
      have answers := Metadata.answers_record (h := h) known p.baseDir report v
      refine ⟨fun fine => ?_, fun path dir failed => ?_⟩
      · rwa [fine] at answers
      · rw [failed] at answers
        obtain ⟨sound, same, outside⟩ := answers
        obtain ⟨file, listed, named, -⟩ := (Run.settles_report ended reported).mem_sources_iff.mp
          (Metadata.sound_of_mem_soundSources sound).1
        obtain ⟨inside, member, named'⟩ := paths file listed
        cases named'.symm.trans named
        exact ⟨fun none => outside (found.nearest none _ member), same, member, outside⟩
  · have answers := yields_generateUnits lists i o s
    rwa [failed] at answers

/-- A configuration in a directory beside that of the declarations: the unit is written, and the run
is not recorded. -/
theorem outside_only_if_configured_beside :
    let tree : FileTree := ⟨.ofList [("conf", .directory), ("conf/declgen.yaml", .file "jobs: 1\n"),
      ("decls", .directory), ("decls/a.decl.yaml", .file "declarations: [\x7bname: A\x7d]\n")]⟩
    let i : InputOptions := ⟨"decls/a.decl.yaml", some "conf/declgen.yaml", false⟩
    (FileTree.host 0).ListsNames ∧
      ((generateUnits (FileTree.host 0) i ⟨none, none, true, true, none⟩).run.run tree).1 =
        .error (.outside "decls/a.decl.yaml" "conf") ∧
      ¬Path.Within "conf" "decls/a.decl.yaml" := by
  intro tree i
  have failed : ((generateUnits (FileTree.host 0) i ⟨none, none, true, true, none⟩).run.run tree).1 =
      .error (.outside "decls/a.decl.yaml" "conf") := by decide +kernel
  obtain ⟨config, -, -, -, outside⟩ :=
    (outside_only_if_configured (FileTree.listsNames_host 0) i).2 _ _ _ _ failed
  exact ⟨FileTree.listsNames_host 0, failed, outside⟩

end Command

end Companion

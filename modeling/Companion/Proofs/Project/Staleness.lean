import Companion.Files.Tree
import Companion.Project.Metadata
import Companion.Proofs.Text.Dictionary

/-! Which declaration files are stale after a run has been recorded.

The digest of a source without an error is taken anew. That of a source with an error is left as it
was, whatever it was: nothing makes such a source stale that was not stale before.
-/

set_option autoImplicit false

namespace Companion

/-- Reading a file gives what it holds, and neither that nor looking at the clock changes anything. -/
structure Host.Reads {σ : Type} (h : Host (StateM σ))
    (contents : σ → String → Except FileError String) : Prop where
  read (path : String) (s : σ) : (h.read path).run s = (contents s path, s)
  now (s : σ) : (h.now.run s).2 = s

theorem FileTree.reads_host (time : Int) : (FileTree.host time).Reads FileTree.read :=
  ⟨fun _ _ => rfl, fun _ => rfl⟩

namespace Steps

variable {σ α β : Type}

theorem run_bind (x : Steps (StateM σ) α) (f : α → Steps (StateM σ) β) (s : σ) :
    (x >>= f).run.run s =
      match x.run.run s with
      | (.ok a, s') => (f a).run.run s'
      | (.error e, s') => (.error e, s') := by
  rw [ExceptT.run_bind, StateT.run_bind]
  cases x.run.run s with
  | mk result after => cases result <;> rfl

theorem bind_eq_ok {x : Steps (StateM σ) α} {f : α → Steps (StateM σ) β} {b : β} {s s' : σ}
    (ran : (x >>= f).run.run s = (.ok b, s')) :
    ∃ a middle, x.run.run s = (.ok a, middle) ∧ (f a).run.run middle = (.ok b, s') := by
  rw [run_bind] at ran
  cases first : x.run.run s with
  | mk result middle =>
    rw [first] at ran
    cases result with
    | error e => cases ran
    | ok a => exact ⟨a, middle, rfl, ran⟩

theorem run_ofFile (y : StateM σ (Except FileError α)) (s : σ) :
    (ofFile y).run.run s = ((y.run s).1.mapError .file, (y.run s).2) := rfl

theorem run_lift (y : StateM σ α) (s : σ) :
    (liftM y : Steps (StateM σ) α).run.run s = (.ok (y.run s).1, (y.run s).2) := rfl

end Steps

namespace Report

/-- The declaration files of a run. -/
def sources (r : Report) : List String := r.declarations.filterMap (·.sourceFile)

/-- Some declaration of the file did not end well. -/
def Fails (r : Report) (source : String) : Prop :=
  ∃ d ∈ r.declarations, d.outcome ≠ .generated ∧ d.sourceFile.any (Path.same source) = true

/-- Files of the run with one path, or with one place in the metadata, are written alike. -/
def SourcesApart (r : Report) (base : String) : Prop :=
  ∀ a ∈ r.sources, ∀ b ∈ r.sources,
    (Path.same a b = true ∨ Metadata.sourceKey? base a ≠ none ∧
      Metadata.sourceKey? base a = Metadata.sourceKey? base b) → a = b

instance (r : Report) (source : String) : Decidable (r.Fails source) := by
  unfold Fails
  infer_instance

instance (r : Report) (base : String) : Decidable (r.SourcesApart base) := by
  unfold SourcesApart
  infer_instance

end Report

namespace Metadata

variable {r : Report} {base source : String}

/-! ### Sources without an error -/

theorem mem_of_mem_distinctPaths {path : String} {paths : List String}
    (member : path ∈ distinctPaths paths) : path ∈ paths := by
  induction paths with
  | nil => exact member
  | cons first others ih =>
    unfold distinctPaths at member
    split at member
    · exact List.mem_cons_of_mem _ (ih member)
    · rcases List.mem_cons.mp member with same | member
      · exact same ▸ List.mem_cons_self
      · exact List.mem_cons_of_mem _ (ih member)

/-- Where one path is written in one way only, no path is lost. -/
theorem mem_distinctPaths {path : String} {paths : List String} (member : path ∈ paths)
    (apart : ∀ other ∈ paths, Path.same path other = true → other = path) :
    path ∈ distinctPaths paths := by
  induction paths with
  | nil => exact member
  | cons first others ih =>
    unfold distinctPaths
    have rest (later : path ∈ others) : path ∈ distinctPaths others :=
      ih later fun other inside => apart other (List.mem_cons_of_mem _ inside)
    split
    · next again =>
      rcases List.mem_cons.mp member with rfl | later
      · -- The path comes again later, and there it is written in the same way.
        obtain ⟨other, inside, same⟩ := List.any_eq_true.mp again
        exact rest (apart other (List.mem_cons_of_mem _ inside) same ▸ inside)
      · exact rest later
    · rcases List.mem_cons.mp member with rfl | later
      · exact List.mem_cons_self
      · exact List.mem_cons_of_mem _ (rest later)

/-- The sources that are sound, with all ways to write them. -/
theorem mem_sound_iff :
    source ∈ ((r.declarations.filterMap (·.sourceFile)).filter fun s =>
      !((r.declarations.filter (·.outcome ≠ .generated)).filterMap (·.sourceFile)).any
        (Path.same s)) ↔ source ∈ r.sources ∧ ¬r.Fails source := by
  simp only [List.mem_filter, Bool.not_eq_true', List.any_eq_false, List.mem_filterMap,
    Report.sources, Report.Fails, decide_eq_true_eq]
  refine and_congr_right fun _ => ⟨?_, ?_⟩
  · rintro fine ⟨d, member, failed, its⟩
    obtain ⟨file, named, same⟩ := (Option.any_eq_true _ _).mp its
    exact fine file ⟨d, ⟨member, failed⟩, named⟩ same
  · rintro fine file ⟨d, ⟨member, failed⟩, named⟩ same
    exact fine ⟨d, member, failed, by rwa [named, Option.any_some]⟩

theorem sound_of_mem_soundSources (member : source ∈ soundSources r) :
    source ∈ r.sources ∧ ¬r.Fails source := by
  rw [soundSources, List.mem_mergeSort] at member
  exact mem_sound_iff.mp (mem_of_mem_distinctPaths member)

theorem mem_soundSources (named : source ∈ r.sources) (fine : ¬r.Fails source)
    (apart : r.SourcesApart base) : source ∈ soundSources r := by
  rw [soundSources, List.mem_mergeSort]
  refine mem_distinctPaths (mem_sound_iff.mpr ⟨named, fine⟩) fun other inside same => ?_
  exact (apart source named other (mem_sound_iff.mp inside).1 (.inl same)).symm

/-! ### Digests -/

/-- The digest of a file that holds a text; a file that cannot be read has none. -/
def digest (content : Except FileError String) : String :=
  (content.toOption.map Sha256.hexDigest).getD ""

theorem sourceHashes_track (known : Metadata) (declaration file : String) :
    (known.track declaration file).sourceHashes = known.sourceHashes := rfl

/-- Counting files leaves digests alone. -/
theorem sourceHashes_recordFiles (known : Metadata) (d : DeclarationRecord) :
    (known.recordFiles d).sourceHashes = known.sourceHashes := by
  have tracked (files : List String) (m : Metadata) :
      (files.foldl (·.track d.declaration) m).sourceHashes = m.sourceHashes := by
    induction files generalizing m with
    | nil => rfl
    | cons file others ih => rw [List.foldl_cons, ih, sourceHashes_track]
  unfold recordFiles
  simp only
  rw [tracked]
  split <;> rfl

theorem sourceHashes_recordAll (known : Metadata) (records : List DeclarationRecord) :
    (records.foldl recordFiles known).sourceHashes = known.sourceHashes := by
  induction records generalizing known with
  | nil => rfl
  | cons d others ih => rw [List.foldl_cons, ih, sourceHashes_recordFiles]

variable {σ : Type} {h : Host (StateM σ)} {contents : σ → String → Except FileError String}
  {known known' : Metadata} {s s' : σ}

theorem run_hashFile (reads : h.Reads contents) (path : String) (s : σ) :
    (hashFile h path).run.run s =
      (((contents s path).mapError .file).map Sha256.hexDigest, s) := by
  have read := reads.read path s
  simp only [hashFile, Steps.ofFile, ExceptT.run_bind, ExceptT.run_mk, StateT.run_bind,
    StateT.run_map, read]
  cases contents s path <;> rfl

/-- A digest is only taken of a file in the base directory that can be read. -/
theorem updateHash_eq_ok (reads : h.Reads contents)
    (updated : (known.updateHash h base source).run.run s = (.ok known', s')) :
    s' = s ∧ (∃ text, contents s source = .ok text) ∧
      ∃ key, sourceKey? base source = some key ∧
        known' = { known with
          sourceHashes := known.sourceHashes.insert key (digest (contents s source)) } := by
  unfold updateHash at updated
  cases place : sourceKey? base source with
  | none =>
    simp only [place] at updated
    cases updated
  | some key =>
    have hashed := run_hashFile reads source s
    simp only [place, ExceptT.run_bind, StateT.run_bind, hashed] at updated
    cases found : contents s source with
    | error e =>
      simp only [found] at updated
      cases updated
    | ok text =>
      simp only [found] at updated
      cases updated
      exact ⟨rfl, ⟨text, rfl⟩, key, rfl, rfl⟩

/-- The first of the sources is noted, and then the others are. -/
theorem updateHashes_cons (reads : h.Reads contents) {others : List String}
    (updated : (known.updateHashes h base (source :: others)).run s = ((.ok (), known'), s')) :
    (∃ text, contents s source = .ok text) ∧ ∃ key, sourceKey? base source = some key ∧
      (updateHashes { known with
        sourceHashes := known.sourceHashes.insert key (digest (contents s source)) } h base
          others).run s = ((.ok (), known'), s') := by
  rw [updateHashes, StateT.run_bind] at updated
  cases first : (known.updateHash h base source).run.run s with
  | mk result after =>
    rw [first] at updated
    cases result with
    | error e => cases updated
    | ok next =>
      obtain ⟨rfl, readable, key, place, rfl⟩ := updateHash_eq_ok reads first
      exact ⟨readable, key, place, updated⟩

/-- What holds of metadata whatever digests are noted holds after sources are. -/
theorem keeps_updateHashes {P : Metadata → Prop} (reads : h.Reads contents)
    (each : ∀ m key text, P m → P { m with sourceHashes := m.sourceHashes.insert key text })
    {sources : List String}
    (updated : (known.updateHashes h base sources).run s = ((.ok (), known'), s'))
    (start : P known) : P known' := by
  induction sources generalizing known with
  | nil =>
    cases updated
    exact start
  | cons source others ih =>
    obtain ⟨-, key, -, later⟩ := updateHashes_cons reads updated
    exact ih later (each known key _ start)

/-- The last of the sources that have a place in the metadata. -/
def last? (base : String) (sources : List String) (key : String) : Option String :=
  (sources.filter fun source => sourceKey? base source = some key).getLast?

theorem last?_cons (sources : List String) (key : String) :
    last? base (source :: sources) key =
      (last? base sources key).or
        (if sourceKey? base source = some key then some source else none) := by
  unfold last?
  rw [List.filter_cons]
  split <;> rename_i found
  · rw [if_pos (of_decide_eq_true found), List.getLast?_cons]
    cases (sources.filter fun source => sourceKey? base source = some key).getLast? <;> rfl
  · rw [if_neg (mt decide_eq_true found), Option.or_none]

/-- Digests of a list of sources are taken one by one, so of sources with one place the last
counts. All other digests stay. -/
theorem updateHashes_eq_ok (reads : h.Reads contents) {sources : List String}
    (updated : (known.updateHashes h base sources).run s = ((.ok (), known'), s')) :
    s' = s ∧ (∀ source ∈ sources, (sourceKey? base source).isSome = true) ∧
      (∀ source ∈ sources, ∃ text, contents s source = .ok text) ∧
      ∀ key, known'.sourceHashes.get? key =
        ((last? base sources key).map fun source => digest (contents s source)).or
          (known.sourceHashes.get? key) := by
  induction sources generalizing known with
  | nil =>
    cases updated
    exact ⟨rfl, nofun, nofun, fun _ => rfl⟩
  | cons source others ih =>
    obtain ⟨readable, place, found, later⟩ := updateHashes_cons reads updated
    obtain ⟨same, placed, readable', gets⟩ := ih later
    refine ⟨same, ?_, List.forall_mem_cons.mpr ⟨readable, readable'⟩, fun key => ?_⟩
    · exact List.forall_mem_cons.mpr ⟨Option.isSome_of_eq_some found, placed⟩
    · -- A later source in the same place counts, then this one, then what was known before.
      rw [gets, Dictionary.get?_insert, last?_cons, found]
      by_cases here : key = place
      · subst here
        cases last? base others key <;> simp
      · cases last? base others key <;> simp [here, Ne.symm here]

/-- A file is stale unless the digest in its place is that of what it holds. -/
theorem run_isStale (reads : h.Reads contents) (known : Metadata) (base source : String) (s : σ) :
    (known.isStale h base source).run s =
      (match sourceKey? base source with
        | none => true
        | some key => known.sourceHashes.get? key != some (digest (contents s source)), s) := by
  have hashed := run_hashFile reads source s
  unfold isStale
  cases sourceKey? base source with
  | none => rfl
  | some key =>
    simp only [StateT.run_bind, hashed]
    cases contents s source <;> rfl

/-- A run is recorded by counting its files, taking digests and looking at the clock. -/
theorem exists_updateHashes (recorded : (known.record h base r).run s = ((.ok (), known'), s')) :
    ∃ next after,
      ((r.declarations.foldl recordFiles known).updateHashes h base (soundSources r)).run s =
        ((.ok (), next), after) ∧
      known' = { next with generatedAt := (h.now.run after).1, toolVersion := version } ∧
      s' = (h.now.run after).2 := by
  unfold record at recorded
  simp only [StateT.run_bind] at recorded
  cases ran : ((r.declarations.foldl recordFiles known).updateHashes h base (soundSources r)).run s with
  | mk result after =>
    obtain ⟨ended, next⟩ := result
    rw [ran] at recorded
    cases ended with
    | error e => cases recorded
    | ok done =>
      have timed : (((.ok (), { next with generatedAt := (h.now.run after).1, toolVersion := version }),
          (h.now.run after).2) : (Except ProjectError Unit × Metadata) × σ) =
          ((.ok (), known'), s') := recorded
      cases timed
      exact ⟨next, after, rfl, rfl, rfl⟩

/-- What a recorded run leaves in the place of a file. -/
theorem record_eq_ok (reads : h.Reads contents)
    (recorded : (known.record h base r).run s = ((.ok (), known'), s')) :
    s' = s ∧ (∀ source ∈ soundSources r, (sourceKey? base source).isSome = true) ∧
      (∀ source ∈ soundSources r, ∃ text, contents s source = .ok text) ∧
      ∀ key, known'.sourceHashes.get? key =
        ((last? base (soundSources r) key).map fun source => digest (contents s source)).or
          (known.sourceHashes.get? key) := by
  obtain ⟨next, after, ran, rfl, rfl⟩ := exists_updateHashes recorded
  obtain ⟨rfl, placed, readable, gets⟩ := updateHashes_eq_ok reads ran
  rw [sourceHashes_recordAll] at gets
  exact ⟨reads.now after, placed, readable, gets⟩

/-! ### Sources with an error -/

/-- The source whose digest a recorded run leaves in the place of a file. -/
def taken? (r : Report) (base source : String) : Option String :=
  (sourceKey? base source).bind (last? base (soundSources r))

/-- After a recorded run a file is stale if the digest taken last in its place is not its own. If
none was taken, it is as stale as before. -/
theorem isStale_recorded (reads : h.Reads contents)
    (recorded : (known.record h base r).run s = ((.ok (), known'), s')) (source : String) :
    ((known'.isStale h base source).run s').1 =
      (taken? r base source).elim ((known.isStale h base source).run s).1
        fun last => digest (contents s last) != digest (contents s source) := by
  obtain ⟨rfl, -, -, gets⟩ := record_eq_ok reads recorded
  rw [run_isStale reads, run_isStale reads, taken?]
  cases sourceKey? base source with
  | none => rfl
  | some key =>
    simp only [Option.bind_some, gets]
    cases last? base (soundSources r) key with
    | none => rfl
    | some last => simp [bne]

theorem mem_of_taken? {last : String} (found : taken? r base source = some last) :
    last ∈ soundSources r ∧ sourceKey? base source ≠ none ∧
      sourceKey? base source = sourceKey? base last := by
  obtain ⟨key, place, found⟩ := Option.bind_eq_some_iff.mp found
  have member := List.mem_of_getLast? found
  rw [List.mem_filter, decide_eq_true_eq] at member
  exact ⟨member.1, by simp [place], place.trans member.2.symm⟩

theorem exists_taken? (member : source ∈ soundSources r)
    (placed : (sourceKey? base source).isSome = true) : ∃ last, taken? r base source = some last := by
  obtain ⟨key, place⟩ := Option.isSome_iff_exists.mp placed
  rw [taken?, place, Option.bind_some]
  apply Option.isSome_iff_exists.mp
  rw [last?, List.getLast?_isSome]
  exact List.ne_nil_of_mem (List.mem_filter.mpr ⟨member, decide_eq_true place⟩)

/-- Of sources that are written alike where they are one, the digest of a source is taken exactly if
no declaration of it has an error. -/
theorem taken?_eq (apart : r.SourcesApart base) (named : source ∈ r.sources)
    (placed : ∀ source ∈ soundSources r, (sourceKey? base source).isSome = true) :
    taken? r base source = if r.Fails source then none else some source := by
  split
  · next fails =>
    -- A sound source in the place of this one would be written like it, and so have its error.
    by_contra taken
    obtain ⟨last, found⟩ := Option.ne_none_iff_exists'.mp taken
    obtain ⟨member, alike⟩ := mem_of_taken? found
    obtain ⟨named', fine⟩ := sound_of_mem_soundSources member
    exact fine (apart source named last named' (.inr alike) ▸ fails)
  · next fine =>
    have member := mem_soundSources named fine apart
    obtain ⟨last, found⟩ := exists_taken? member (placed source member)
    obtain ⟨inside, alike⟩ := mem_of_taken? found
    have named' := (sound_of_mem_soundSources inside).1
    rw [found, apart source named last named' (.inr alike)]

/-- After a recorded run a file is stale if the digest taken last in its place is not its own, and as
stale as before if none was taken. So a source is stale exactly if some declaration of it has an error
and the source was stale already: a run with errors takes no digest anew, and does not forget one
either. -/
theorem stale_iff_fails_and_stale (reads : h.Reads contents)
    (recorded : (known.record h base r).run s = ((.ok (), known'), s')) :
    (∀ source, ((known'.isStale h base source).run s').1 =
      (taken? r base source).elim ((known.isStale h base source).run s).1
        fun last => digest (contents s last) != digest (contents s source)) ∧
    (r.SourcesApart base → ∀ source ∈ r.sources,
      (((known'.isStale h base source).run s').1 = true ↔
        r.Fails source ∧ ((known.isStale h base source).run s).1 = true)) := by
  refine ⟨isStale_recorded reads recorded, fun apart source named => ?_⟩
  rw [isStale_recorded reads recorded,
    taken?_eq apart named (record_eq_ok reads recorded).2.1]
  by_cases fails : r.Fails source
  · simp [fails]
  · simp [fails]

/-- A file that was generated once has an error in the next run, which also has a new file. Neither is
stale after that: the first keeps the digest of before. -/
theorem stale_iff_fails_and_stale_missed :
    let tree : FileTree := ⟨.ofList [("a.yaml", .file "A"), ("b.yaml", .file "B")]⟩
    let host := FileTree.host 0
    let known : Metadata := { empty 0 with
      sourceHashes := ⟨[("a.yaml", Sha256.hexDigest "A")]⟩ }
    let r : Report := ⟨[⟨"A", some "./a.yaml", "", .failed, []⟩,
      ⟨"B", some "./b.yaml", "", .generated, []⟩]⟩
    let known' : Metadata := { known with sourceHashes :=
      ⟨[("a.yaml", Sha256.hexDigest "A"), ("b.yaml", Sha256.hexDigest "B")]⟩ }
    (known.record host "." r).run tree = ((.ok (), known'), tree) ∧
      r.Fails "./a.yaml" ∧ ((known'.isStale host "." "./a.yaml").run tree).1 = false ∧
      ¬r.Fails "./b.yaml" ∧ ((known'.isStale host "." "./b.yaml").run tree).1 = false := by
  intro tree host known r known'
  have sound : soundSources r = ["./b.yaml"] := by
    rw [soundSources, show distinctPaths _ = ["./b.yaml"] by decide +kernel]
    exact List.mergeSort_singleton _
  have recorded : (known.record host "." r).run tree = ((.ok (), known'), tree) := by
    rw [record, sound]
    rfl
  have apart : r.SourcesApart "." := by decide +kernel
  have fails : r.Fails "./a.yaml" ∧ ¬r.Fails "./b.yaml" := by decide +kernel
  have fresh : ((known.isStale host "." "./a.yaml").run tree).1 = false := by
    rw [run_isStale (FileTree.reads_host 0)]
    exact bne_self_eq_false _
  have stale := (stale_iff_fails_and_stale (FileTree.reads_host 0) recorded).2 apart
  refine ⟨recorded, fails.1, ?_, fails.2, ?_⟩
  · rw [Bool.eq_false_iff, ne_eq, stale "./a.yaml" (by decide), fresh]
    exact fun both => Bool.noConfusion both.2
  · rw [Bool.eq_false_iff, ne_eq, stale "./b.yaml" (by decide)]
    exact fun both => fails.2 both.1

end Metadata

end Companion

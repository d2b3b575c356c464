import Companion.Proofs.Generate.Records
import Companion.Proofs.Project.Staleness

/-! What a recorded run changes of the metadata: the files of the declarations that it wrote, and the
digests of the sources without an error. All else stays. -/

set_option autoImplicit false

namespace Companion

/-- The files of a declaration after its record was taken over, from those known before. All files
written replace those known; some of them are added. -/
def DeclarationRecord.filesAfter (d : DeclarationRecord) (known : Option (List String)) :
    Option (List String) :=
  if d.writtenFiles = [] then known
  else if d.writtenFiles.length = d.artifacts.length then some d.writtenFiles.eraseDups
  else some (known.getD [] ++ (d.writtenFiles.removeAll (known.getD [])).eraseDups)

theorem DeclarationRecord.writtenFiles_of_artifacts {d : DeclarationRecord}
    (none : d.artifacts = []) : d.writtenFiles = [] := by
  rw [writtenFiles, none]
  rfl

namespace Metadata

/-! ### Files -/

/-- The files of a declaration; a declaration that is not known has none. -/
def filesOf (m : Metadata) (declaration : String) : List String :=
  (m.generatedFiles.get? declaration).getD []

theorem get?_track (m : Metadata) (declaration file name : String) :
    (m.track declaration file).generatedFiles.get? name =
      if name = declaration then
        some (if file ∈ m.filesOf declaration then m.filesOf declaration
          else m.filesOf declaration ++ [file])
      else m.generatedFiles.get? name := by
  have added : (if (m.filesOf declaration).contains file then m.filesOf declaration
      else m.filesOf declaration ++ [file]) =
        if file ∈ m.filesOf declaration then m.filesOf declaration
        else m.filesOf declaration ++ [file] := by
    simp only [List.contains_iff_mem]
  rw [← added]
  exact Dictionary.get?_insert ..

/-- Files that are counted one after the other are added once, in the order they come first. -/
theorem get?_trackAll (m : Metadata) (declaration name : String) (files : List String) :
    (files.foldl (·.track declaration) m).generatedFiles.get? name =
      if name = declaration ∧ files ≠ [] then
        some (m.filesOf declaration ++ (files.removeAll (m.filesOf declaration)).eraseDups)
      else m.generatedFiles.get? name := by
  induction files generalizing m with
  | nil => simp
  | cons file files ih =>
    rw [List.foldl_cons, ih]
    by_cases named : name = declaration
    · subst named
      have tracked := get?_track m name file name
      rw [if_pos rfl] at tracked
      have known : (m.track name file).filesOf name =
          if file ∈ m.filesOf name then m.filesOf name else m.filesOf name ++ [file] := by
        rw [filesOf, tracked, Option.getD_some]
      rw [tracked, known, if_pos (show name = name ∧ file :: files ≠ [] from ⟨rfl, nofun⟩)]
      by_cases old : file ∈ m.filesOf name
      · cases files with
        | nil => simp [old, List.removeAll]
        | cons next files => simp [old, List.removeAll]
      · have rest : files.removeAll (m.filesOf name ++ [file]) =
            (files.removeAll (m.filesOf name)).filter fun other => !other == file := by
          rw [List.removeAll, List.removeAll, List.filter_filter]
          refine List.filter_congr fun other _ => ?_
          by_cases same : other = file <;> simp [same]
        have whole : (file :: files).removeAll (m.filesOf name) =
            file :: files.removeAll (m.filesOf name) := by
          simp [List.removeAll, old]
        rw [if_neg old, whole, List.eraseDups_cons, ← rest, List.append_cons]
        cases files <;> simp
    · simp [named, get?_track]

/-- Taking over a record changes the files of its declaration only. -/
theorem get?_recordFiles (m : Metadata) (d : DeclarationRecord) (name : String) :
    (m.recordFiles d).generatedFiles.get? name =
      if name = d.declaration then d.filesAfter (m.generatedFiles.get? name)
      else m.generatedFiles.get? name := by
  unfold recordFiles DeclarationRecord.filesAfter
  simp only [get?_trackAll]
  by_cases silent : d.writtenFiles = []
  · simp [silent]
  rw [if_neg silent]
  by_cases whole : d.writtenFiles.length = d.artifacts.length
  · have forgotten : ({ m with generatedFiles := m.generatedFiles.erase d.declaration } :
        Metadata).filesOf d.declaration = [] := by
      rw [filesOf, Dictionary.get?_erase, if_pos rfl, Option.getD_none]
    rw [if_pos (show d.writtenFiles.length = d.artifacts.length ∧ d.writtenFiles ≠ [] from
      ⟨whole, silent⟩), if_pos whole, forgotten, Dictionary.get?_erase]
    by_cases named : name = d.declaration <;> simp [named, silent, List.removeAll]
  · rw [if_neg (show ¬(d.writtenFiles.length = d.artifacts.length ∧ d.writtenFiles ≠ []) from
      fun both => whole both.1), if_neg whole]
    by_cases named : name = d.declaration <;> simp [named, silent, filesOf]

/-- Records without files change nothing. -/
theorem get?_recordAll_of_silent {records : List DeclarationRecord} {name : String}
    (silent : ∀ d ∈ records, d.declaration = name → d.writtenFiles = []) (m : Metadata) :
    (records.foldl recordFiles m).generatedFiles.get? name = m.generatedFiles.get? name := by
  induction records generalizing m with
  | nil => rfl
  | cons d records ih =>
    obtain ⟨first, others⟩ := List.forall_mem_cons.mp silent
    rw [List.foldl_cons, ih others, get?_recordFiles]
    split
    · next named => rw [DeclarationRecord.filesAfter, if_pos (first named.symm)]
    · rfl

/-- The one record of a declaration that lists files says what becomes of them. -/
theorem get?_recordAll {records : List DeclarationRecord}
    (once : records.Pairwise fun d later =>
      later.declaration = d.declaration → later.artifacts = [])
    {d : DeclarationRecord} (member : d ∈ records) (written : d.writtenFiles ≠ []) (m : Metadata) :
    (records.foldl recordFiles m).generatedFiles.get? d.declaration =
      d.filesAfter (m.generatedFiles.get? d.declaration) := by
  obtain ⟨before, after, rfl⟩ := List.append_of_mem member
  obtain ⟨-, others, apart⟩ := List.pairwise_append.mp once
  obtain ⟨following, -⟩ := List.pairwise_cons.mp others
  have preceding (first : DeclarationRecord) (inside : first ∈ before) :
      first.declaration ≠ d.declaration := fun same =>
    written (DeclarationRecord.writtenFiles_of_artifacts
      (apart first inside d (List.mem_cons_self ..) same.symm))
  rw [List.foldl_append, List.foldl_cons, get?_recordAll_of_silent fun later inside named =>
    DeclarationRecord.writtenFiles_of_artifacts (following later inside named),
    get?_recordFiles, if_pos rfl,
    get?_recordAll_of_silent fun first inside named => absurd named (preceding first inside)]

/-! ### Runs -/

variable {σ τ : Type} {h : Host (StateM τ)} {contents : τ → String → Except FileError String}
  {known known' : Metadata} {base : String} {t t' : τ}

theorem generatedFiles_record (reads : h.Reads contents) {r : Report}
    (recorded : (known.record h base r).run t = ((.ok (), known'), t')) :
    known'.generatedFiles = (r.declarations.foldl recordFiles known).generatedFiles := by
  obtain ⟨next, after, ran, rfl, -⟩ := exists_updateHashes recorded
  have kept : next.generatedFiles = (r.declarations.foldl recordFiles known).generatedFiles :=
    keeps_updateHashes (P := (·.generatedFiles = _)) reads (fun _ _ _ kept => kept) ran rfl
  exact kept

/-- The digest that is known of a source. -/
def hash? (m : Metadata) (base source : String) : Option String :=
  (sourceKey? base source).bind m.sourceHashes.get?

/-- A digest is that of a source without an error, as it is now, or the one known before. -/
theorem get?_sourceHashes_record (reads : h.Reads contents) {r : Report}
    (recorded : (known.record h base r).run t = ((.ok (), known'), t')) (key : String) :
    known'.sourceHashes.get? key = known.sourceHashes.get? key ∨
      ∃ source ∈ r.sources, ¬r.Fails source ∧ sourceKey? base source = some key ∧
        ∃ text, contents t source = .ok text ∧
          known'.sourceHashes.get? key = some (Sha256.hexDigest text) := by
  obtain ⟨-, -, readable, gets⟩ := record_eq_ok reads recorded
  cases found : last? base (soundSources r) key with
  | none =>
    left
    rw [gets, found]
    rfl
  | some source =>
    right
    have member := List.mem_of_getLast? found
    rw [List.mem_filter, decide_eq_true_eq] at member
    obtain ⟨named, fine⟩ := sound_of_mem_soundSources member.1
    obtain ⟨text, holds⟩ := readable source member.1
    refine ⟨source, named, fine, member.2, text, holds, ?_⟩
    rw [gets, found, Option.map_some, holds]
    rfl

/-- Where no two sources are one path or have one place, the digest of a source is taken anew exactly
if none of its declarations has an error. -/
theorem hash?_record (reads : h.Reads contents) {r : Report}
    (recorded : (known.record h base r).run t = ((.ok (), known'), t'))
    (apart : r.SourcesApart base) {source : String} (named : source ∈ r.sources) :
    known'.hash? base source =
      if r.Fails source then known.hash? base source else some (digest (contents t source)) := by
  obtain ⟨-, placed, -, gets⟩ := record_eq_ok reads recorded
  have taken := taken?_eq apart named placed
  unfold hash?
  cases place : sourceKey? base source with
  | none =>
    by_cases fails : r.Fails source
    · rw [if_pos fails]
      rfl
    · cases place.symm.trans
        (Option.isSome_iff_exists.mp (placed source (mem_soundSources named fails apart))).choose_spec
  | some key =>
    rw [taken?, place, Option.bind_some] at taken
    rw [Option.bind_some, Option.bind_some, gets, taken]
    split <;> rfl

/-- After the run of a project has been recorded, the files of a declaration that was generated are
those it wrote, one that is incomplete has got those it wrote in addition, and the files of all other
names are what they were. A digest that is not what it was is that of a source without an error. -/
theorem recorded_files_and_digests {layout : String → String} {config : Config}
    {sources : List DeclarationSource} {sink : Sink (StateM σ)} {s : σ} {e : Ending σ}
    {report : Report} (ended : (Run.ofSourcesWith layout config sources).Ends sink s e)
    (reported : e.result = .ok report) (reads : h.Reads contents)
    (recorded : (known.record h base report).run t = ((.ok (), known'), t')) :
    (∀ d ∈ report.declarations, d.outcome = .generated →
      known'.generatedFiles.get? d.declaration = some d.writtenFiles.eraseDups) ∧
    (∀ d ∈ report.declarations, d.outcome = .incomplete → d.writtenFiles ≠ [] →
      known'.generatedFiles.get? d.declaration =
        some (known.filesOf d.declaration ++
          (d.writtenFiles.removeAll (known.filesOf d.declaration)).eraseDups)) ∧
    (∀ name, (∀ d ∈ report.declarations, d.declaration = name → d.writtenFiles = []) →
      known'.generatedFiles.get? name = known.generatedFiles.get? name) ∧
    (∀ key, known'.sourceHashes.get? key = known.sourceHashes.get? key ∨
      ∃ source ∈ report.sources, ¬report.Fails source ∧ sourceKey? base source = some key ∧
        ∃ text, contents t source = .ok text ∧
          known'.sourceHashes.get? key = some (Sha256.hexDigest text)) ∧
    (report.SourcesApart base → ∀ source ∈ report.sources,
      known'.hash? base source =
        if report.Fails source then known.hash? base source
        else some (digest (contents t source))) := by
  have settles := Run.settles_report ended reported
  refine ⟨fun d member generated => ?_, fun d member incomplete wrote => ?_, fun name silent => ?_,
    get?_sourceHashes_record reads recorded,
    fun apart source named => hash?_record reads recorded apart named⟩ <;>
    rw [generatedFiles_record reads recorded]
  · obtain ⟨any, written⟩ := (settles.settled d member).generated generated
    have whole : d.artifacts.filter (·.isWritten) = d.artifacts := List.filter_eq_self.mpr written
    have files : d.writtenFiles = d.artifacts.map (·.fileName) := by
      rw [DeclarationRecord.writtenFiles, whole]
    have wrote : d.writtenFiles ≠ [] := by rwa [files, ne_eq, List.map_eq_nil_iff]
    rw [get?_recordAll settles.once member wrote, DeclarationRecord.filesAfter, if_neg wrote,
      if_pos (by rw [files, List.length_map])]
  · obtain ⟨a, listed, missed⟩ := (settles.settled d member).incomplete incomplete
    have fewer : d.writtenFiles.length < d.artifacts.length := by
      rw [DeclarationRecord.writtenFiles, List.length_map]
      exact List.length_filter_lt_length_iff_exists.mpr ⟨a, listed, by simp [missed]⟩
    rw [get?_recordAll settles.once member wrote, DeclarationRecord.filesAfter, if_neg wrote,
      if_neg fewer.ne, filesOf]
  · exact get?_recordAll_of_silent silent known

/-- A declaration is generated and another one stays incomplete. The unit that the first no longer has
is forgotten, and that of the second is not. -/
theorem recorded_files_and_digests_refused :
    let sources : List DeclarationSource :=
      [⟨some "./a.yaml", default, [⟨"A", none, [], [.subclass], [], [], none⟩]⟩,
        ⟨some "./b.yaml", default, [⟨"B", none, [], [.builder], [], [], none⟩]⟩]
    let r := Run.ofSources .standard sources
    let sink := MemorySink.sink fun file => if file = "b_builder.rs" then some "full" else none
    let tree : FileTree := ⟨.ofList [("a.yaml", .file "A"), ("b.yaml", .file "B")]⟩
    let known : Metadata := { empty 0 with
      generatedFiles := ⟨[("A", ["a_builder.rs"]), ("B", ["b_old.rs"])]⟩ }
    ∃ report known', r.Ends sink .empty (r.inTurn sink .empty) ∧
      (r.inTurn sink .empty).result = .ok report ∧
      (known.record (FileTree.host 0) "." report).run tree = ((.ok (), known'), tree) ∧
      known'.generatedFiles.get? "A" = some ["a_subclass.rs"] ∧
      known'.generatedFiles.get? "B" = some ["b_old.rs", "b_subclass.rs"] ∧
      known'.generatedFiles.get? "C" = none ∧
      known'.hash? "." "./a.yaml" = some (Sha256.hexDigest "A") ∧
      known'.hash? "." "./b.yaml" = none := by
  intro sources r sink tree known
  have ran : (r.inTurn sink .empty).result.toOption = some ⟨[
      ⟨"A", some "./a.yaml", Declaration.hash ⟨"A", none, [], [.subclass], [], [], none⟩, .generated,
        [⟨.subclass, "ASubclass", "a_subclass.rs", true⟩]⟩,
      ⟨"B", some "./b.yaml", Declaration.hash ⟨"B", none, [], [.builder], [], [], none⟩, .incomplete,
        [⟨.subclass, "BSubclass", "b_subclass.rs", true⟩,
          ⟨.builder, "BBuilder", "b_builder.rs", false⟩]⟩]⟩ := by decide +kernel
  have ended : r.Ends sink .empty (r.inTurn sink .empty) := .inTurn rfl
  cases result : (r.inTurn sink .empty).result with
  | error e => rw [result] at ran; cases ran
  | ok report =>
    rw [result] at ran
    cases ran
    set report : Report := ⟨_⟩
    have sound : soundSources report = ["./a.yaml"] := by
      rw [soundSources, show distinctPaths _ = ["./a.yaml"] by decide +kernel]
      exact List.mergeSort_singleton _
    obtain ⟨known', recorded⟩ : ∃ known',
        (known.record (FileTree.host 0) "." report).run tree = ((.ok (), known'), tree) := by
      rw [record, sound]
      exact ⟨_, rfl⟩
    obtain ⟨generated, incomplete, silent, -, apart⟩ := recorded_files_and_digests ended result
      (FileTree.reads_host 0) recorded
    refine ⟨report, known', ended, rfl, recorded, ?_, ?_, ?_, ?_, ?_⟩
    · exact generated _ (List.mem_cons_self ..) rfl
    · exact incomplete _ (List.mem_cons_of_mem _ (List.mem_cons_self ..)) rfl (by decide)
    · exact silent "C" (by decide)
    · rw [apart (by decide +kernel) "./a.yaml" (by decide), if_neg (by decide +kernel)]
      rfl
    · rw [apart (by decide +kernel) "./b.yaml" (by decide), if_pos (by decide +kernel)]
      rfl

end Metadata

end Companion

import Companion.Proofs.Config.FileNames
import Companion.Proofs.Generate.Records
import Companion.Proofs.Generate.Schedules
import Mathlib.Data.List.Nodup

/-! What files hold after a run.

A file is named by the configuration, the declaration's name and the kind of a unit. Nothing keeps
two units from having one file, and then it holds the one that was written last.
-/

set_option autoImplicit false

namespace Companion.Run

variable {r : Run} {verdict : String → Except String Unit} {file text : String}

theorem mem_writesFor {j : Job} :
    (file, text) ∈ r.writesFor verdict j ↔ ∃ a ∈ r.unitsOf j,
      (verdict a.fileName).isOk = true ∧ a.fileName = file ∧ a.state.content = text := by
  simp only [writesFor, accepted, List.mem_map, List.mem_filter, Prod.mk.injEq]
  constructor
  · rintro ⟨a, ⟨member, fine⟩, named, filled⟩
    exact ⟨a, member, fine, named, filled⟩
  · rintro ⟨a, member, fine, named, filled⟩
    exact ⟨a, ⟨member, fine⟩, named, filled⟩

/-- The artifacts of a record are the units of the declaration. -/
theorem artifacts_recordFor (r : Run) (verdict : String → Except String Unit) (j : Job) :
    (r.recordFor j (r.saidTo verdict j)).artifacts =
      (r.unitsOf j).map fun a => recordOf a (verdict a.fileName).isOk := by
  unfold recordFor
  split
  · next failed => simp [unitsOf_of_failed failed, record]
  · rw [settle, record, recordsOf, saidTo, List.zipWith_map_right, List.zipWith_self]

/-- The file of a declaration's companion. -/
def fileOf (r : Run) (j : Job) (kind : ArtifactKind) : String :=
  r.config.naming.fileName j.declaration.name kind

theorem fileName_unitsOf {j : Job} {a : Artifact} (member : a ∈ r.unitsOf j) :
    a.fileName = r.fileOf j a.kind := by
  obtain ⟨-, g, -, unit⟩ := unitsOf_spec member
  exact unit.fileName

/-- Two units that were accepted under one name. -/
structure ShareFile (r : Run) (refusal? : String → Option String) (j : Job) (a : Artifact)
    (j' : Job) (a' : Artifact) : Prop where
  job : j ∈ r.jobs
  unit : a ∈ r.unitsOf j
  job' : j' ∈ r.jobs
  unit' : a' ∈ r.unitsOf j'
  isAccepted : refusal? (r.fileOf j a.kind) = none
  file : r.fileOf j a.kind = r.fileOf j' a'.kind

/-- Every unit that was accepted is in its file. -/
def FilesKept (r : Run) (refusal? : String → Option String) (files : MemorySink) : Prop :=
  ∀ j ∈ r.jobs, ∀ a ∈ r.unitsOf j, refusal? (r.fileOf j a.kind) = none →
    files.get? (r.fileOf j a.kind) = some a.state.content

variable {refusal? : String → Option String} {s : MemorySink} {e : Ending MemorySink}

/-- What is written for a job under a file's name. -/
theorem mem_writesFor_of_accepted {j j' : Job} {a : Artifact}
    (fine : refusal? (r.fileOf j a.kind) = none) (text : String) :
    (r.fileOf j a.kind, text) ∈ r.writesFor (MemorySink.verdict refusal?) j' ↔
      ∃ a' ∈ r.unitsOf j', r.fileOf j' a'.kind = r.fileOf j a.kind ∧ a'.state.content = text := by
  rw [mem_writesFor]
  refine exists_congr fun a' => and_congr_right fun member' => ?_
  rw [MemorySink.isOk_verdict, fileName_unitsOf member', and_iff_right_of_imp]
  rintro ⟨shared, -⟩
  rw [shared, fine, Option.isNone_none]

/-- Files keep what was accepted exactly if no two units with one file differ. -/
theorem filesKept_iff_alike (ended : r.Ends (MemorySink.sink refusal?) s e) :
    r.FilesKept refusal? e.sinkState ↔
      ∀ j a j' a', r.ShareFile refusal? j a j' a' → a.state.content = a'.state.content := by
  obtain ⟨generated, flushed, inOrder, records, known⟩ := explained_of_ends ended
  obtain ⟨-, -, holds⟩ := known.byName (MemorySink.byName refusal?)
  have same : (generated.map (·.job)).Perm r.jobs := known.jobs ▸ known.sameGenerated.map _
  constructor
  · intro kept j a j' a' share
    have here := kept j share.job a share.unit share.isAccepted
    have there := kept j' share.job' a' share.unit' (share.file ▸ share.isAccepted)
    rw [← share.file, here] at there
    exact Option.some.inj there
  · intro alike j first a member fine
    have found : (((generated.map (·.job)).flatMap
        (r.writesFor (MemorySink.verdict refusal?))).reverse.lookup (r.fileOf j a.kind)) =
          some a.state.content := by
      refine lookup_eq_some_of_agree ?_ fun text member' => ?_
      · rw [List.mem_reverse]
        exact List.mem_flatMap.mpr ⟨j, same.mem_iff.mpr first,
          (mem_writesFor_of_accepted fine _).mpr ⟨a, member, rfl, rfl⟩⟩
      · obtain ⟨j', second, writes⟩ := List.mem_flatMap.mp (List.mem_reverse.mp member')
        obtain ⟨a', inside, shared, rfl⟩ := (mem_writesFor_of_accepted fine text).mp writes
        exact (alike j a j' a'
          ⟨first, member, same.mem_iff.mp second, inside, fine, shared.symm⟩).symm
    rw [holds, found, Option.some_or]

/-- A run that ends reports on the units of all declarations. -/
theorem exists_report (ended : r.Ends (MemorySink.sink refusal?) s e) :
    ∃ report : Report, e.result = .ok report ∧
      report.declarations.map (·.artifacts) = r.jobs.map fun j => (r.unitsOf j).map fun a =>
        ⟨a.kind, r.config.naming.outputName j.declaration.name a.kind, r.fileOf j a.kind,
          (refusal? (r.fileOf j a.kind)).isNone⟩ := by
  obtain ⟨generated, flushed, inOrder, records, known⟩ := explained_of_ends ended
  obtain ⟨result, -⟩ := known.byName (MemorySink.byName refusal?)
  refine ⟨_, result, ?_⟩
  rw [List.map_map]
  refine List.map_congr_left fun j _ => (artifacts_recordFor ..).trans
    (List.map_congr_left fun a member => ?_)
  obtain ⟨-, g, -, unit⟩ := unitsOf_spec member
  rw [recordOf, unit.outputName, MemorySink.isOk_verdict, fileName_unitsOf member]

/-! ### Units that say where they come from -/

/-- A line of a header. -/
def headerLine (text : String) : String := Text.trimEnd ("// " ++ text)

theorem not_mem_headerLine {c : Char} {text : String} (start : c ∉ "// ".toList)
    (absent : c ∉ text.toList) : c ∉ (headerLine text).toList := by
  refine Text.not_mem_trimEnd ?_
  rw [String.toList_append, List.mem_append]
  exact not_or.mpr ⟨start, absent⟩

/-- The line in which a unit is named. -/
def unitLine (name : String) (kind : ArtifactKind) : String :=
  "// declaration: " ++ name ++ " (" ++ kind.name ++ ")"

theorem headerLine_unit (name : String) (kind : ArtifactKind) :
    headerLine ("declaration: " ++ name ++ " (" ++ kind.name ++ ")") = unitLine name kind := by
  have start : "// " ++ "declaration: " = "// declaration: " := by simp
  calc headerLine ("declaration: " ++ name ++ " (" ++ kind.name ++ ")")
      = Text.trimEnd ("// " ++ "declaration: " ++ name ++ " (" ++ kind.name ++ ")") := by
        simp only [headerLine, String.append_assoc]
    _ = unitLine name kind := by
      unfold unitLine
      rw [Text.trimEnd_closed, start]

theorem toList_unitLine (name : String) (kind : ArtifactKind) :
    (unitLine name kind).toList =
      "// declaration: ".toList ++
        (name.toList ++ [' '] ++ '(' :: (kind.name.toList ++ [')'])) := by
  have opening : " (".toList = [' ', '('] := by simp
  have closing : ")".toList = [')'] := by simp
  unfold unitLine
  simp only [String.toList_append, opening, closing, List.append_assoc, List.cons_append,
    List.nil_append]

theorem unitLine_inj {name name' : String} {kind kind' : ArtifactKind}
    (same : unitLine name kind = unitLine name' kind') : name = name' ∧ kind = kind' := by
  have apart (kind : ArtifactKind) : '(' ∉ kind.name.toList := by cases kind <;> decide
  have lists := congrArg String.toList same
  rw [toList_unitLine, toList_unitLine, List.append_cancel_left_eq] at lists
  obtain ⟨names, kinds⟩ := ArtifactKind.append_name_inj apart lists
  exact ⟨String.toList_injective (List.append_cancel_right names), kinds⟩

theorem newline_not_mem_unitLine {name : String} (absent : '\n' ∉ name.toList)
    (kind : ArtifactKind) : '\n' ∉ (unitLine name kind).toList := by
  have start : '\n' ∉ "// declaration: ".toList := by simp
  have others : '\n' ∉ [' '] ++ '(' :: (kind.name.toList ++ [')']) := by cases kind <;> decide
  rw [toList_unitLine, List.append_assoc]
  simp only [List.mem_append, not_or] at others ⊢
  exact ⟨start, absent, others⟩

/-- The first lines of a unit: the version, the file of the declaration, and the unit itself. -/
theorem exists_header (j : Job) (m : Model) (kind : ArtifactKind) (body : String) :
    ∃ rest : String, Code.withHeader (provenance j m kind) body =
      headerLine ("Generated by declgen " ++ version ++ ". Do not edit.") ++ "\n" ++
        (headerLine ("source: " ++ j.originName) ++ "\n" ++
          (unitLine m.name kind ++ "\n" ++ rest)) := by
  refine ⟨headerLine ("sha256: " ++ m.hash) ++ "\n" ++ "\n" ++ body, ?_⟩
  calc Code.withHeader (provenance j m kind) body
      = String.join [headerLine ("Generated by declgen " ++ version ++ ". Do not edit.") ++ "\n",
          headerLine ("source: " ++ j.originName) ++ "\n",
          headerLine ("declaration: " ++ m.name ++ " (" ++ kind.name ++ ")") ++ "\n",
          headerLine ("sha256: " ++ m.hash) ++ "\n"] ++ "\n" ++ body := rfl
    _ = _ := by
      rw [headerLine_unit]
      simp only [String.join, List.foldl_cons, List.foldl_nil, String.empty_append,
        String.append_assoc]

theorem exists_header_unitsOf {j : Job} {a : Artifact} (traced : r.config.provenance = true)
    (member : a ∈ r.unitsOf j) :
    ∃ rest : String, a.state.content =
      headerLine ("Generated by declgen " ++ version ++ ". Do not edit.") ++ "\n" ++
        (headerLine ("source: " ++ j.originName) ++ "\n" ++
          (unitLine j.declaration.name a.kind ++ "\n" ++ rest)) := by
  obtain ⟨-, g, known, unit⟩ := unitsOf_spec member
  obtain ⟨code, text, -, finished, filled⟩ := unit.filled
  simp only [finishText, Checked.value_noted, traced, if_true, Option.some.injEq] at finished
  obtain ⟨rest, header⟩ := exists_header j g.model a.kind _
  rw [(Model.isOf_of_ofDeclaration (model_of_generation known).2.1).name] at header
  exact ⟨rest, by rw [filled, ArtifactState.content, ← finished, header]⟩

/-- Neither the name of the declaration nor that of its file breaks a line. -/
def IsSingleLine (j : Job) : Prop :=
  '\n' ∉ j.originName.toList ∧ '\n' ∉ j.declaration.name.toList

instance (j : Job) : Decidable (IsSingleLine j) := inferInstanceAs (Decidable (_ ∧ _))

/-- Units of one text are of one name and kind. -/
theorem name_eq_of_content_eq {j j' : Job} {a a' : Artifact} (traced : r.config.provenance = true)
    (single : IsSingleLine j) (single' : IsSingleLine j') (member : a ∈ r.unitsOf j)
    (member' : a' ∈ r.unitsOf j') (same : a.state.content = a'.state.content) :
    j.declaration.name = j'.declaration.name ∧ a.kind = a'.kind := by
  obtain ⟨rest, header⟩ := exists_header_unitsOf traced member
  obtain ⟨rest', header'⟩ := exists_header_unitsOf traced member'
  have start : '\n' ∉ "// ".toList := by simp
  have source {j : Job} (plain : '\n' ∉ j.originName.toList) :
      '\n' ∉ (headerLine ("source: " ++ j.originName)).toList := by
    refine not_mem_headerLine start ?_
    rw [String.toList_append, List.mem_append]
    exact not_or.mpr ⟨by simp, plain⟩
  rw [header, header'] at same
  have lists := congrArg String.toList same
  have line : "\n".toList = ['\n'] := by simp
  simp only [String.toList_append, List.append_assoc, List.append_cancel_left_eq, line,
    List.cons_append, List.nil_append, List.cons.injEq, true_and] at lists
  -- The lines on the source and on the unit end at the first line breaks there are.
  obtain ⟨-, below⟩ := Chars.append_cons_inj (source single.1) (source single'.1) lists
  obtain ⟨lines, -⟩ := Chars.append_cons_inj (newline_not_mem_unitLine single.2 a.kind)
    (newline_not_mem_unitLine single'.2 a'.kind) below
  exact unitLine_inj (String.toList_injective lines)

/-- The units of a run are told by name and kind. -/
theorem IndexesFirst.unit_eq (indexes : r.IndexesFirst) {j j' : Job} {a a' : Artifact}
    (first : j ∈ r.jobs) (second : j' ∈ r.jobs) (member : a ∈ r.unitsOf j)
    (member' : a' ∈ r.unitsOf j') (name : j.declaration.name = j'.declaration.name)
    (kind : a.kind = a'.kind) : a = a' := by
  obtain ⟨-, g, known, -⟩ := unitsOf_spec member
  obtain ⟨-, g', known', -⟩ := unitsOf_spec member'
  obtain rfl := indexes.job_eq first second (model_of_generation known).1
    (model_of_generation known').1 name
  exact List.inj_on_of_nodup_map (nodup_kinds_unitsOf r j) member member' kind

/-- Where units say where they come from, files keep what was accepted exactly if no two units have
one file. -/
theorem filesKept_iff_distinct (indexes : r.IndexesFirst)
    (ended : r.Ends (MemorySink.sink refusal?) s e) (traced : r.config.provenance = true)
    (single : ∀ j ∈ r.jobs, IsSingleLine j) :
    r.FilesKept refusal? e.sinkState ↔ ∀ j a j' a', r.ShareFile refusal? j a j' a' →
      j.declaration.name = j'.declaration.name ∧ a.kind = a'.kind := by
  refine (filesKept_iff_alike ended).trans ⟨?_, ?_⟩
  · intro alike j a j' a' share
    exact name_eq_of_content_eq traced (single j share.job) (single j' share.job') share.unit
      share.unit' (alike j a j' a' share)
  · intro distinct j a j' a' share
    obtain ⟨name, kind⟩ := distinct j a j' a' share
    rw [indexes.unit_eq share.job share.job' share.unit share.unit' name kind]

/-- Under the standard names files keep what was accepted exactly if no two declarations with a
companion of one kind have names that agree in small letters. -/
theorem filesKept_standard_iff (indexes : r.IndexesFirst)
    (ended : r.Ends (MemorySink.sink fun _ => none) s e) (traced : r.config.provenance = true)
    (standard : r.config.naming = .standard) (single : ∀ j ∈ r.jobs, IsSingleLine j)
    (plain : ∀ j ∈ r.jobs, j.declaration.name ≠ "" ∧ '\x7b' ∉ j.declaration.name.toList) :
    r.FilesKept (fun _ => none) e.sinkState ↔
      ∀ j ∈ r.jobs, ∀ j' ∈ r.jobs, ∀ a ∈ r.unitsOf j, ∀ a' ∈ r.unitsOf j', a.kind = a'.kind →
        Naming.snakeCase j.declaration.name = Naming.snakeCase j'.declaration.name →
        j.declaration.name = j'.declaration.name := by
  have shared {j j' : Job} (first : j ∈ r.jobs) (second : j' ∈ r.jobs)
      (kind kind' : ArtifactKind) : r.fileOf j kind = r.fileOf j' kind' ↔
        kind = kind' ∧
          Naming.snakeCase j.declaration.name = Naming.snakeCase j'.declaration.name := by
    rw [fileOf, fileOf, standard]
    exact Naming.Scheme.fileName_standard_eq_iff (plain j first).1 (plain j' second).1
      (plain j first).2 (plain j' second).2 kind kind'
  refine (filesKept_iff_distinct indexes ended traced single).trans ⟨?_, ?_⟩
  · intro distinct j first j' second a member a' member' kinds names
    exact (distinct j a j' a' ⟨first, member, second, member', rfl,
      (shared first second _ _).mpr ⟨kinds, names⟩⟩).1
  · intro distinct j a j' a' share
    obtain ⟨kinds, names⟩ := (shared share.job share.job' _ _).mp share.file
    exact ⟨distinct j share.job j' share.job' a share.unit a' share.unit' kinds names, kinds⟩

/-- A run reports on the units of all declarations. Each one that was accepted is in its file in the
end exactly if no two of them have one file and different texts. Where units say where they come
from, these are units of different names or kinds. -/
theorem files_kept_iff (layout : String → String) (config : Config)
    (sources : List DeclarationSource) (refusal? : String → Option String) (s : MemorySink)
    (e : Ending MemorySink)
    (ended : (ofSourcesWith layout config sources).Ends (MemorySink.sink refusal?) s e) :
    let r := ofSourcesWith layout config sources
    (∃ report : Report, e.result = .ok report ∧
      report.declarations.map (·.artifacts) = r.jobs.map fun j => (r.unitsOf j).map fun a =>
        ⟨a.kind, config.naming.outputName j.declaration.name a.kind, r.fileOf j a.kind,
          (refusal? (r.fileOf j a.kind)).isNone⟩) ∧
      (r.FilesKept refusal? e.sinkState ↔
        ∀ j a j' a', r.ShareFile refusal? j a j' a' → a.state.content = a'.state.content) ∧
      (config.provenance = true → (∀ j ∈ r.jobs, IsSingleLine j) →
        (r.FilesKept refusal? e.sinkState ↔ ∀ j a j' a', r.ShareFile refusal? j a j' a' →
          j.declaration.name = j'.declaration.name ∧ a.kind = a'.kind)) := by
  exact ⟨exists_report ended, filesKept_iff_alike ended,
    filesKept_iff_distinct (indexesFirst layout config sources) ended⟩

/-- A configuration that is accepted can give two units of a declaration one file, and then one of
them is lost. -/
theorem files_lost_of_shared_suffix :
    let config : Config := { Config.standard with
      naming := { Naming.Scheme.standard with builderSuffix := "Subclass" } }
    let sources : List DeclarationSource :=
      [⟨none, default, [⟨"Point", none, [], [.builder], [], [], none⟩]⟩]
    let r := ofSources config sources
    config.validate = .ok config ∧
      ¬r.FilesKept (fun _ => none) (r.inTurn (MemorySink.sink fun _ => none) .empty).sinkState := by
  intro config sources r
  refine ⟨by decide +kernel, fun kept => ?_⟩
  obtain ⟨j, first, fine, requested, shared⟩ : ∃ j ∈ r.jobs, (r.prepared j).isFailed = false ∧
      j.declaration.artifacts = [.subclass, .builder] ∧
      r.fileOf j .subclass = r.fileOf j .builder := by decide +kernel
  have kinds := kinds_unitsOf fine
  obtain ⟨a, member, subclass⟩ : ∃ a ∈ r.unitsOf j, a.kind = .subclass := by
    rw [← List.mem_map, kinds, requested]
    exact List.mem_cons_self ..
  obtain ⟨a', member', builder⟩ : ∃ a ∈ r.unitsOf j, a.kind = .builder := by
    rw [← List.mem_map, kinds, requested]
    exact List.mem_cons_of_mem _ (List.mem_cons_self ..)
  have distinct := ((files_kept_iff id config sources (fun _ => none) .empty _
    (.inTurn (by decide +kernel))).2.2 rfl (by decide +kernel)).mp kept
  obtain ⟨-, same⟩ := distinct j a j a' ⟨first, member, first, member', rfl,
    subclass ▸ builder ▸ shared⟩
  rw [subclass, builder] at same
  cases same

end Companion.Run

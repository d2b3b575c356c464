import Companion.Proofs.Files.Tree
import Companion.Proofs.Project.Staleness
import Companion.Proofs.Yaml.Values

/-! Metadata is loaded as it was saved.

Its dictionaries are in the order of their keys, whatever was recorded in them, so that reading them
entry by entry gives them back.
-/

set_option autoImplicit false

namespace Companion

open Yaml

/-- Looking for files changes nothing, those that can be read are found, and what was written can be
read. -/
structure Host.Stores {σ : Type} (h : Host (StateM σ))
    (contents : σ → String → Except FileError String) : Prop extends h.Reads contents where
  look (path : String) (s : σ) : ((h.kind? path).run s).2 = s
  found (path text : String) (s : σ) :
    contents s path = .ok text → ((h.kind? path).run s).1.isSome = true
  written (path text : String) (s s' : σ) :
    (h.write path text).run s = (.ok (), s') → contents s' path = .ok text

theorem FileTree.stores_host (time : Int) : (FileTree.host time).Stores FileTree.read where
  toReads := FileTree.reads_host time
  look _ _ := rfl
  found _ _ _ holds := FileTree.isSome_kind?_of_read holds
  written path text t t' wrote := by
    cases known : t.write path text with
    | error e =>
      simp only [FileTree.host, StateT.run_modifyGet, known] at wrote
      cases wrote
    | ok after =>
      simp only [FileTree.host, StateT.run_modifyGet, known] at wrote
      cases wrote
      exact FileTree.read_write known

namespace Metadata

/-- Dictionaries in order. -/
structure Ordered (m : Metadata) : Prop where
  hashes : m.sourceHashes.Sorted
  files : m.generatedFiles.Sorted

/-! ### Text -/

/-- The node of a text. -/
def textNode (text : String) : Node := .scalar none .doubleQuoted text

/-- The entries of the document that metadata is. -/
def fields (m : Metadata) : List (String × Node) := [
  ("source_hashes", .mapping none
    (m.sourceHashes.entries.map fun entry => (textNode entry.1, textNode entry.2))),
  ("generated_files", .mapping none (m.generatedFiles.entries.map fun entry =>
    (textNode entry.1, .sequence none (entry.2.map textNode)))),
  ("generated_at", .scalar none .plain (toString m.generatedAt)),
  ("tool_version", textNode m.toolVersion)]

theorem reads_textNode (text : String) : Reads (Read.text (textNode text)) text :=
  reads_text none .doubleQuoted text

theorem fits_of_isTime {seconds : Int} (time : isTime seconds = true) :
    Word.fitsSigned 64 seconds = true := by
  have size : Word.count 63 = 9223372036854775808 := rfl
  simp only [isTime, Bool.and_eq_true, decide_eq_true_eq] at time
  simp only [Word.fitsSigned, Word.least, Word.greatest, size, Bool.and_eq_true, decide_eq_true_eq]
  omega

/-- The document of metadata is read as the metadata. -/
theorem reads_document {m : Metadata} (ordered : m.Ordered) (time : isTime m.generatedAt = true) :
    Reads (read (.mapping none (m.fields.map fun entry => (textNode entry.1, entry.2)))) m := by
  have hashes : Reads (Read.dictionary Read.text Read.text (.mapping none
      (m.sourceHashes.entries.map fun entry => (textNode entry.1, textNode entry.2))))
      m.sourceHashes := by
    refine reads_dictionary ordered.hashes ?_ none
    refine List.forall₂_map_left_iff.mpr (List.forall₂_same.mpr fun entry _ => ?_)
    exact ⟨reads_textNode entry.1, reads_textNode entry.2⟩
  have files : Reads (Read.dictionary Read.text (Read.list Read.text) (.mapping none
      (m.generatedFiles.entries.map fun entry =>
        (textNode entry.1, .sequence none (entry.2.map textNode))))) m.generatedFiles := by
    refine reads_dictionary ordered.files ?_ none
    refine List.forall₂_map_left_iff.mpr (List.forall₂_same.mpr fun entry _ => ?_)
    refine ⟨reads_textNode entry.1, reads_list ?_ none⟩
    exact List.forall₂_map_left_iff.mpr (List.forall₂_same.mpr fun text _ => reads_textNode text)
  have seconds : Reads (readTime (.scalar none .plain (toString m.generatedAt))) m.generatedAt :=
    (reads_integer (fits_of_isTime time)).bind ((reads_guard time).bind (reads_pure _))
  have listed := reads_fields
    ["source_hashes", "generated_files", "generated_at", "tool_version"] m.fields false
    (by simp [fields]) (by simp [fields])
  refine listed.bind ?_
  exact (reads_required rfl hashes).bind ((reads_getD rfl files).bind
    ((reads_required rfl seconds).bind ((reads_required rfl (reads_textNode _)).bind (reads_pure m))))

theorem idle_heading : ∀ line ∈ heading.map String.toList,
    IsIdle line ∧ ∀ c ∈ line, isAllowed c = true := by
  have comment (line : String) (known : line.toList.head? = some '#' ∧
      (∀ c ∈ line.toList.tail, isBreak c = false) ∧ ∀ c ∈ line.toList, isAllowed c = true) :
      IsIdle line.toList ∧ ∀ c ∈ line.toList, isAllowed c = true := by
    obtain ⟨first, plain, allowed⟩ := known
    exact ⟨.inr ⟨line.toList.tail, (List.eq_cons_of_mem_head? first).symm ▸ rfl, plain⟩, allowed⟩
  intro line member
  obtain ⟨text, listed, rfl⟩ := List.mem_map.mp member
  simp only [heading, List.mem_cons, List.not_mem_nil, or_false] at listed
  rcases listed with rfl | rfl | rfl
  · exact comment _ ⟨rfl, Chars.forall_mem_of_all (by decide), Chars.forall_mem_of_all (by decide)⟩
  · exact comment _ ⟨rfl, Chars.forall_mem_of_all (by decide), Chars.forall_mem_of_all (by decide)⟩
  · exact ⟨.inl rfl, nofun⟩

/-- Metadata in order is read from its text. -/
theorem ofText?_toText {m : Metadata} (ordered : m.Ordered) (time : isTime m.generatedAt = true) :
    ofText? m.toText = some m := by
  have hashes : Writes (mapping 1 (m.sourceHashes.entries.map fun entry => (entry.1, quote entry.2)))
      (.mapping none (m.sourceHashes.entries.map fun entry =>
        (textNode entry.1, textNode entry.2))) := by
    refine writes_mapping 1 (List.forall₂_map_left_iff.mpr (List.forall₂_map_right_iff.mpr ?_))
    exact List.forall₂_same.mpr fun entry _ => ⟨rfl, writes_quote entry.2⟩
  have files : Writes (mapping 1 (m.generatedFiles.entries.map fun entry =>
        (entry.1, list 2 (entry.2.map quote))))
      (.mapping none (m.generatedFiles.entries.map fun entry =>
        (textNode entry.1, .sequence none (entry.2.map textNode)))) := by
    refine writes_mapping 1 (List.forall₂_map_left_iff.mpr (List.forall₂_map_right_iff.mpr ?_))
    refine List.forall₂_same.mpr fun entry _ => ⟨rfl, writes_list 2 ?_⟩
    refine List.forall₂_map_left_iff.mpr (List.forall₂_map_right_iff.mpr ?_)
    exact List.forall₂_same.mpr fun text _ => writes_quote text
  have written : List.Forall₂ EntryWrites [
      ("source_hashes",
        mapping 1 (m.sourceHashes.entries.map fun entry => (entry.1, quote entry.2))),
      ("generated_files", mapping 1 (m.generatedFiles.entries.map fun entry =>
        (entry.1, list 2 (entry.2.map quote)))),
      ("generated_at", toString m.generatedAt), ("tool_version", quote m.toolVersion)]
      (m.fields.map fun entry => (textNode entry.1, entry.2)) :=
    .cons ⟨rfl, hashes⟩ (.cons ⟨rfl, files⟩ (.cons ⟨rfl, writes_integer m.generatedAt⟩
      (.cons ⟨rfl, writes_quote m.toolVersion⟩ .nil)))
  have document := ofText?_mapping (fun line member => (idle_heading line member).1)
    (fun line member => (idle_heading line member).2)
    (show m.toText.toList = _ by
      simp only [toText, String.toList_append, String.toList_join, spaces, List.flatMap_map,
        List.replicate_zero, List.append_nil, List.append_assoc]
      rfl) written
  have read := reads_document ordered time ⟨some (.mapping none
    (m.fields.map fun entry => (textNode entry.1, entry.2))), []⟩
  rw [ofText?, document, Option.bind_some]
  simp [Read.run, read]

/-! ### Order -/

theorem ordered_empty (time : Int) : (empty time).Ordered :=
  ⟨Dictionary.sorted_empty, Dictionary.sorted_empty⟩

theorem ordered_of_ofText? {text : String} {m : Metadata} (read : ofText? text = some m) :
    m.Ordered := by
  have gives (n : Node) : Gives (Metadata.read n) Ordered := by
    refine (gives_any _).bind fun f _ => ?_
    refine (gives_required f _ (gives_dictionary _ _)).bind fun hashes sorted => ?_
    refine (gives_getD f _ (gives_dictionary _ _) Dictionary.sorted_empty).bind fun files sorted' => ?_
    exact (gives_any _).bind fun _ _ => (gives_any _).bind fun _ _ => gives_pure ⟨sorted, sorted'⟩
  obtain ⟨d, -, ran⟩ := Option.bind_eq_some_iff.mp read
  obtain ⟨⟨found, left⟩, here, rfl⟩ := Option.map_eq_some_iff.mp ran
  exact gives _ d _ found left here

theorem Ordered.track {m : Metadata} (ordered : m.Ordered) (declaration file : String) :
    (m.track declaration file).Ordered :=
  ⟨ordered.hashes, ordered.files.insert declaration _⟩

theorem Ordered.recordFiles {m : Metadata} (ordered : m.Ordered) (d : DeclarationRecord) :
    (m.recordFiles d).Ordered := by
  have tracked (files : List String) (m : Metadata) (ordered : m.Ordered) :
      (files.foldl (·.track d.declaration) m).Ordered := by
    induction files generalizing m with
    | nil => exact ordered
    | cons file files ih => exact ih _ (ordered.track d.declaration file)
  unfold Metadata.recordFiles
  refine tracked _ _ ?_
  split
  · exact ⟨ordered.hashes, ordered.files.erase d.declaration⟩
  · exact ordered

theorem Ordered.recordAll {m : Metadata} (ordered : m.Ordered) (records : List DeclarationRecord) :
    (records.foldl Metadata.recordFiles m).Ordered := by
  induction records generalizing m with
  | nil => exact ordered
  | cons d records ih => exact ih (ordered.recordFiles d)

variable {σ : Type} {h : Host (StateM σ)} {contents : σ → String → Except FileError String}
  {known known' : Metadata} {base : String} {s s' : σ}

theorem Ordered.updateHashes (reads : h.Reads contents) {sources : List String}
    (ordered : known.Ordered)
    (updated : (known.updateHashes h base sources).run s = ((.ok (), known'), s')) :
    known'.Ordered := by
  refine Metadata.keeps_updateHashes reads (fun m key text ordered => ?_) updated ordered
  exact ⟨ordered.hashes.insert key _, ordered.files⟩

/-- Recording keeps the dictionaries in order, and notes the time. -/
theorem Ordered.record (reads : h.Reads contents) {r : Report} (ordered : known.Ordered)
    (recorded : (known.record h base r).run s = ((.ok (), known'), s')) :
    known'.Ordered ∧ known'.generatedAt = (h.now.run s).1 := by
  obtain ⟨next, after, ran, rfl, -⟩ := exists_updateHashes recorded
  obtain ⟨rfl, -⟩ := updateHashes_eq_ok reads ran
  have kept := (ordered.recordAll r.declarations).updateHashes reads ran
  exact ⟨⟨kept.hashes, kept.files⟩, rfl⟩

/-! ### Files -/

variable {dir : String} {t t' : σ}

theorem run_exists? (stores : h.Stores contents) (path : String) (s : σ) :
    (h.exists? path).run s = (((h.kind? path).run s).1.isSome, s) := by
  have same := stores.look path s
  unfold Host.exists?
  rw [StateT.run_bind]
  cases found : (h.kind? path).run s with
  | mk kind after =>
    rw [found] at same
    obtain rfl : after = s := same
    rfl

theorem run_load (stores : h.Stores contents) (dir : String) (s : σ) :
    (load h dir).run.run s =
      (if ((h.kind? (Path.join dir metadataFile)).run s).1.isSome = true then
        match contents s (Path.join dir metadataFile) with
        | .error e => .error (.file e)
        | .ok text => ((ofText? text).map some).elim (.error .metadata) .ok
      else .ok none, s) := by
  have looked := run_exists? stores (Path.join dir metadataFile) s
  have read := stores.read (Path.join dir metadataFile) s
  unfold load
  simp only [Steps.run_bind, Steps.run_lift, looked]
  cases ((h.kind? (Path.join dir metadataFile)).run s).1.isSome with
  | false => rfl
  | true =>
    simp only [if_true, Steps.run_bind, Steps.run_ofFile, read]
    cases contents s (Path.join dir metadataFile) with
    | error e => rfl
    | ok text =>
      simp only [Except.mapError]
      cases ofText? text <;> rfl

/-- What is loaded is in order, and nothing changes. -/
theorem load_eq_ok (stores : h.Stores contents) {found : Option Metadata}
    (loaded : (load h dir).run.run s = (.ok found, s')) :
    s' = s ∧ ∀ known ∈ found, known.Ordered := by
  rw [run_load stores] at loaded
  obtain ⟨answer, rfl⟩ := Prod.mk.inj loaded
  refine ⟨rfl, fun known member => ?_⟩
  obtain rfl : found = some known := member
  split at answer
  · cases holds : contents s (Path.join dir metadataFile) with
    | error e =>
      rw [holds] at answer
      cases answer
    | ok text =>
      rw [holds] at answer
      cases read : ofText? text with
      | none =>
        simp only [read] at answer
        cases answer
      | some m =>
        simp only [read] at answer
        cases answer
        exact ordered_of_ofText? read
  · cases answer

theorem contents_save (stores : h.Stores contents)
    (saved : (known.save h dir).run.run s = (.ok (), s')) :
    contents s' (Path.join dir metadataFile) = .ok known.toText := by
  obtain ⟨-, middle, -, wrote⟩ := Steps.bind_eq_ok saved
  rw [Steps.run_ofFile] at wrote
  obtain ⟨answer, rfl⟩ := Prod.mk.inj wrote
  refine stores.written _ _ middle _ (Prod.ext ?_ rfl)
  cases known : ((h.write (Path.join dir metadataFile) known.toText).run middle).1 with
  | error e =>
    rw [known] at answer
    cases answer
  | ok => rfl

/-- Metadata that was saved is loaded as it was. -/
theorem load_saved (stores : h.Stores contents) (ordered : known.Ordered)
    (time : isTime known.generatedAt = true)
    (saved : (known.save h dir).run.run s = (.ok (), s'))
    (kept : contents t (Path.join dir metadataFile) = contents s' (Path.join dir metadataFile)) :
    (load h dir).run.run t = (.ok (some known), t) := by
  rw [contents_save stores saved] at kept
  rw [run_load stores, if_pos (stores.found _ _ _ kept), kept]
  simp [ofText?_toText ordered time]

end Metadata

end Companion

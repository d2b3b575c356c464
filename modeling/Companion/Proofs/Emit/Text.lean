import Companion.Proofs.Emit.Layout
import Companion.Proofs.Text.Basic
import Mathlib.Data.List.Dedup
import Mathlib.Data.List.DropRight
import Mathlib.Data.List.Induction

/-! The text of a unit: its imports in order, and its lines without blank ones at the end. -/

set_option autoImplicit false

namespace Companion

/-! ### Imports -/

namespace Emitter

/-- Paths in order, each once. -/
def imports (paths : List String) : List String :=
  paths.dedup.mergeSort fun a b => decide (a ≤ b)

theorem mem_insertSorted {path other : String} {known : List String} :
    other ∈ insertSorted path known ↔ other = path ∨ other ∈ known := by
  induction known with
  | nil => simp [insertSorted]
  | cons first others ih =>
    unfold insertSorted
    split
    · next same => simp [same]
    · split
      · simp
      · rw [List.mem_cons, ih, List.mem_cons]
        exact or_left_comm

theorem pairwise_insertSorted {path : String} {known : List String}
    (sorted : known.Pairwise (· < ·)) : (insertSorted path known).Pairwise (· < ·) := by
  induction known with
  | nil => simp [insertSorted]
  | cons first others ih =>
    obtain ⟨least, rest⟩ := List.pairwise_cons.mp sorted
    unfold insertSorted
    split
    · exact sorted
    · next differ =>
      split
      · next less =>
        refine List.pairwise_cons.mpr ⟨fun other member => ?_, sorted⟩
        rcases List.mem_cons.mp member with rfl | later
        · exact less
        · exact String.lt_trans less (least other later)
      · next notLess =>
        refine List.pairwise_cons.mpr ⟨fun other member => ?_, ih rest⟩
        rcases mem_insertSorted.mp member with rfl | later
        · exact String.not_le.mp fun le => differ (String.le_antisymm le (String.not_lt.mp notLess))
        · exact least other later

/-- Paths that are put in their places one by one are in order, and all there. -/
theorem insertSorted_spec (paths : List String) {known : List String}
    (sorted : known.Pairwise (· < ·)) :
    (paths.foldl (fun known path => insertSorted path known) known).Pairwise (· < ·) ∧
      ∀ path, path ∈ paths.foldl (fun known path => insertSorted path known) known ↔
        path ∈ paths ∨ path ∈ known := by
  induction paths generalizing known with
  | nil => simpa using sorted
  | cons first others ih =>
    obtain ⟨inOrder, members⟩ := ih (pairwise_insertSorted sorted)
    refine ⟨inOrder, fun path => ?_⟩
    rw [List.foldl_cons, members, mem_insertSorted, List.mem_cons, or_assoc]
    exact or_left_comm

theorem imports_eq (paths : List String) :
    paths.foldl (fun known path => insertSorted path known) [] = imports paths := by
  obtain ⟨inOrder, members⟩ := insertSorted_spec paths List.Pairwise.nil
  have sorted : (imports paths).Pairwise (· ≤ ·) := by
    have least : (imports paths).Pairwise fun a b => decide (a ≤ b) = true :=
      List.pairwise_mergeSort (by simpa using fun a b c => String.le_trans)
        (by simpa using String.le_total) paths.dedup
    simpa only [decide_eq_true_eq] using least
  have same : (paths.foldl (fun known path => insertSorted path known) []).Perm
      (imports paths) := by
    have once : (imports paths).Nodup :=
      (List.mergeSort_perm paths.dedup _).nodup_iff.mpr (List.nodup_dedup paths)
    refine (List.perm_ext_iff_of_nodup (inOrder.imp String.ne_of_lt) once).mpr fun path => ?_
    simp [members, imports]
  -- Both lists are in order and have the same members once each, so they are one list.
  have weaken {a b : String} (less : a < b) : a ≤ b := String.not_lt.mp (String.lt_asymm less)
  exact same.eq_of_pairwise (fun _ _ _ _ => String.le_antisymm) (inOrder.imp weaken) sorted

end Emitter

/-! ### Lines -/

namespace Entry

/-- An entry that adds to no more than one line. -/
def IsClean : Entry → Prop
  | line text | tail text => '\n' ∉ text.toList
  | gap => True

theorem isClean_ofText {depth : Nat} {text : String} {entry : Entry}
    (member : entry ∈ ofText depth text) : entry.IsClean := by
  obtain ⟨l, inside, rfl⟩ := List.mem_map.mp member
  have clean := Text.newline_not_mem_lines inside
  change '\n' ∉ (Emitter.indentLine depth l).toList
  unfold Emitter.indentLine
  split
  · exact List.not_mem_nil
  · simp [clean]

theorem clean_extend {lines : List String} {entry : Entry} (isClean : entry.IsClean)
    (clean : ∀ l ∈ lines, '\n' ∉ l.toList) : ∀ l ∈ extend lines entry, '\n' ∉ l.toList := by
  intro l member
  cases entry with
  | line text =>
    rcases List.mem_append.mp member with above | last
    · exact clean l above
    · rwa [List.mem_singleton.mp last]
  | gap =>
    simp only [extend] at member
    split at member
    · exact clean l member
    · rcases List.mem_append.mp member with above | last
      · exact clean l above
      · rw [List.mem_singleton.mp last]
        exact List.not_mem_nil
  | tail text =>
    rcases List.mem_append.mp member with above | last
    · exact clean l (List.dropLast_subset _ above)
    · obtain ⟨begun, found, rfl⟩ := Option.map_eq_some_iff.mp (Option.mem_toList.mp last)
      rw [String.toList_append, List.mem_append, not_or]
      exact ⟨clean begun (List.mem_of_getLast? found), isClean⟩

/-- The lines that entries make. -/
def layout (entries : List Entry) : List String := entries.foldl extend []

theorem clean_foldl {entries : List Entry} {lines : List String}
    (each : ∀ entry ∈ entries, entry.IsClean) (clean : ∀ l ∈ lines, '\n' ∉ l.toList) :
    ∀ l ∈ entries.foldl extend lines, '\n' ∉ l.toList := by
  induction entries generalizing lines with
  | nil => exact clean
  | cons entry others ih =>
    obtain ⟨first, rest⟩ := List.forall_mem_cons.mp each
    exact ih rest (clean_extend first clean)

end Entry

namespace Step

theorem isClean_entries {depth : Nat} (s : Step) : ∀ entry ∈ s.entries depth, entry.IsClean := by
  intro entry member
  cases s with
  | statement | note | item | field => exact Entry.isClean_ofText member
  | blank => rw [List.mem_singleton.mp member]; trivial
  | use | enter | leave => cases member

theorem isClean_openingEntries {depth : Nat} {kind : BlockKind} {opener : String} :
    ∀ entry ∈ openingEntries depth kind opener, entry.IsClean := by
  intro entry member
  unfold openingEntries at member
  split at member
  · rw [List.mem_singleton.mp member]
    change '\n' ∉ " else \x7b".toList
    decide
  · exact Entry.isClean_ofText member

end Step

namespace Emitter

theorem withoutTrailing_append_self (c : Char) (text : String) :
    withoutTrailing c (text ++ String.singleton c) = withoutTrailing c text := by
  simp [withoutTrailing, Text.onChars, Chars.trimEnd]

theorem withoutTrailing_of_not_mem {c : Char} {last : String} (some : last ≠ "")
    (absent : c ∉ last.toList) (text : String) :
    withoutTrailing c (text ++ last) = text ++ last := by
  have chars : last.toList ≠ [] := fun empty => some (String.toList_injective (by simpa using empty))
  have ends : List.rdropWhile (· == c) (text ++ last).toList = (text ++ last).toList := by
    rw [List.rdropWhile_eq_self_iff]
    intro any
    have tail : (text ++ last).toList.getLast any = last.toList.getLast chars := by
      simp [List.getLast_append_of_ne_nil, chars]
    rw [tail, beq_iff_eq]
    exact fun same => absent (same ▸ List.getLast_mem chars)
  have trimmed : withoutTrailing c (text ++ last) =
      String.ofList (List.rdropWhile (· == c) (text ++ last).toList) := rfl
  rw [trimmed, ends, String.ofList_toList]

/-- Lines that are joined end in the last one, after a terminator if there are others. -/
theorem intercalate_concat (above : List String) (last : String) :
    "\n".intercalate (above ++ [last]) =
      (if above = [] then "" else "\n".intercalate above ++ "\n") ++ last := by
  split
  · next none => simp [none]
  · next some => simp [String.intercalate_append_of_ne_nil some]

/-- Taking away terminators at the end of a text takes away the blank lines there. -/
theorem withoutTrailing_intercalate {lines : List String} (clean : ∀ l ∈ lines, '\n' ∉ l.toList) :
    withoutTrailing '\n' ("\n".intercalate lines) =
      "\n".intercalate (lines.rdropWhile String.isEmpty) := by
  -- From the end: a blank line goes with the terminator before it, any other line stops the trimming.
  induction lines using List.reverseRecOn with
  | nil => rfl
  | append_singleton above last ih =>
    have earlier := ih fun l member => clean l (List.mem_append_left _ member)
    rw [List.rdropWhile_concat]
    by_cases empty : last = ""
    · subst empty
      rw [if_pos (show "".isEmpty = true from rfl), ← earlier, intercalate_concat, String.append_empty]
      split
      · next none => rw [none]; rfl
      · exact withoutTrailing_append_self '\n' _
    · rw [if_neg (by simpa using empty), intercalate_concat]
      exact withoutTrailing_of_not_mem empty (clean last (by simp)) _

end Emitter

end Companion

import Companion.Text.Basic
import Mathlib.Data.List.Basic

/-! Texts that are put together, and taken apart again. -/

set_option autoImplicit false

namespace Companion

namespace Chars

/-- What can be asked of a character can be asked of those of a list, one by one. -/
theorem forall_mem_of_all {p : Char → Prop} [DecidablePred p] {cs : List Char}
    (all : (cs.all fun c => decide (p c)) = true) : ∀ c ∈ cs, p c := by
  simpa using all

/-- A text is known by the parts before and after the first occurrence of a character. -/
theorem append_cons_inj {c : Char} {before before' after after' : List Char}
    (absent : c ∉ before) (absent' : c ∉ before')
    (same : before ++ c :: after = before' ++ c :: after') : before = before' ∧ after = after' := by
  induction before generalizing before' with
  | nil =>
    cases before' with
    | nil => exact ⟨rfl, (List.cons.inj same).2⟩
    | cons d before' => exact absurd (List.cons.inj same).1 (List.ne_of_not_mem_cons absent')
  | cons d before ih =>
    cases before' with
    | nil => exact absurd (List.cons.inj same).1.symm (List.ne_of_not_mem_cons absent)
    | cons d' before' =>
      rw [List.cons_append, List.cons_append, List.cons.injEq] at same
      obtain ⟨first, rest⟩ := ih (List.not_mem_of_not_mem_cons absent)
        (List.not_mem_of_not_mem_cons absent') same.2
      exact ⟨by rw [same.1, first], rest⟩

/-- Where the first character of a pattern does not occur nothing is replaced. -/
theorem replaceAll_of_not_mem {c : Char} {pattern replacement cs : List Char}
    (absent : c ∉ cs) : replaceAll (c :: pattern) replacement cs = cs := by
  unfold replaceAll
  induction cs with
  | nil => rfl
  | cons d cs ih =>
    have mismatch : (c :: pattern).isPrefixOf (d :: cs) = false := by
      simp [List.isPrefixOf, List.ne_of_not_mem_cons absent]
    rw [replaceFrom, mismatch, if_neg Bool.false_ne_true, ih (List.not_mem_of_not_mem_cons absent)]

/-- Lines hold no terminators. -/
theorem newline_not_mem_lines {cs : List Char} : ∀ line ∈ lines cs, '\n' ∉ line := by
  induction cs with
  | nil => exact nofun
  | cons c rest ih =>
    intro line member
    unfold lines at member
    split at member
    · rcases List.mem_cons.mp member with rfl | later
      · exact List.not_mem_nil
      · exact ih line later
    · next other =>
      have single : '\n' ∉ [c] := by simpa [eq_comm] using other
      split at member
      · rwa [List.mem_singleton.mp member]
      · split at member
        · rwa [List.mem_singleton.mp member]
        · next first others known =>
          -- The rest of the text has a first line, which this character begins or, in a long
          -- terminator, does not belong to.
          rw [known] at ih
          obtain ⟨begins, later⟩ := List.forall_mem_cons.mp ih
          split at member
          · exact ih line member
          · rcases List.mem_cons.mp member with rfl | inside
            · exact List.not_mem_cons_of_ne_of_not_mem (Ne.symm other) begins
            · exact later line inside

/-! ### Pieces -/

theorem splitAll_ne_nil (sep : Char) (cs : List Char) : splitAll sep cs ≠ [] := by
  cases cs with
  | nil => nofun
  | cons c rest =>
    unfold splitAll
    split
    · nofun
    · split <;> nofun

theorem splitAll_of_not_mem {sep : Char} {cs : List Char} (absent : sep ∉ cs) :
    splitAll sep cs = [cs] := by
  induction cs with
  | nil => rfl
  | cons c rest ih =>
    rw [splitAll, if_neg (Ne.symm (List.ne_of_not_mem_cons absent)),
      ih (List.not_mem_of_not_mem_cons absent)]

theorem splitAll_append (sep : Char) (front back : List Char) :
    splitAll sep (front ++ sep :: back) = splitAll sep front ++ splitAll sep back := by
  induction front with
  | nil => simp [splitAll]
  | cons c rest ih =>
    rw [List.cons_append, splitAll, splitAll, ih]
    split
    · rfl
    · cases known : splitAll sep rest with
      | nil => exact absurd known (splitAll_ne_nil sep rest)
      | cons piece pieces => rfl

theorem splitAll_reverse (sep : Char) (cs : List Char) :
    splitAll sep cs.reverse = ((splitAll sep cs).map List.reverse).reverse := by
  by_cases member : sep ∈ cs
  · obtain ⟨front, back, rfl, absent⟩ := List.eq_append_cons_of_mem member
    have shorter : back.length < (front ++ sep :: back).length := by simp; omega
    rw [List.reverse_append, List.reverse_cons, List.append_assoc, List.singleton_append,
      splitAll_append, splitAll_append, splitAll_reverse sep back,
      splitAll_of_not_mem (mt List.mem_reverse.mp absent), splitAll_of_not_mem absent]
    simp
  · rw [splitAll_of_not_mem (mt List.mem_reverse.mp member), splitAll_of_not_mem member]
    rfl
termination_by cs.length

end Chars

namespace Text

theorem newline_not_mem_lines {text line : String} (member : line ∈ lines text) :
    '\n' ∉ line.toList := by
  obtain ⟨cs, inside, rfl⟩ := List.mem_map.mp member
  rw [String.toList_ofList]
  exact Chars.newline_not_mem_lines cs inside

theorem replaceAll_of_not_mem {c : Char} {hole filling text : String} {rest : List Char}
    (start : hole.toList = c :: rest) (absent : c ∉ text.toList) :
    replaceAll hole filling text = text := by
  rw [replaceAll, onChars, start, Chars.replaceAll_of_not_mem absent, String.ofList_toList]

/-- A text with a suffix is what comes before it, and then the suffix. -/
theorem eq_append_of_beforeSuffix? {tail text before : String}
    (found : beforeSuffix? tail text = some before) : text = before ++ tail := by
  obtain ⟨rest, known, rfl⟩ := Option.map_eq_some_iff.mp found
  have reversed := congrArg List.reverse (List.isPrefixOf?_eq_some_iff_append_eq.mp known)
  rw [List.reverse_append, List.reverse_reverse, List.reverse_reverse] at reversed
  rw [← String.toList_inj, String.toList_append, String.toList_ofList, reversed]

theorem not_mem_trimEnd {c : Char} {text : String} (absent : c ∉ text.toList) :
    c ∉ (trimEnd text).toList := by
  intro member
  simp only [trimEnd, onChars, Chars.trimEnd, String.toList_ofList, List.mem_reverse] at member
  exact absent (List.mem_reverse.mp ((List.dropWhile_sublist _).subset member))

/-- A text that ends in a closing parenthesis has no blanks at its end. -/
theorem trimEnd_closed (text : String) : trimEnd (text ++ ")") = text ++ ")" := by
  have last : (text ++ ")").toList.reverse = ')' :: text.toList.reverse := by simp
  rw [trimEnd, onChars, Chars.trimEnd, last, List.dropWhile_cons_of_neg (by decide), ← last,
    List.reverse_reverse, String.ofList_toList]

end Text

end Companion

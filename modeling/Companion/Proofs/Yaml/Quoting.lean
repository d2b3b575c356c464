import Companion.Yaml.Lexer
import Companion.Yaml.Writer
import Mathlib.Algebra.GroupWithZero.Nat
import Mathlib.Data.List.TakeWhile
import Mathlib.Data.Option.Basic

/-! Quoted texts are read as they were written.

The reader takes words and the blanks between them in turn, so a text is read by what is left of it
behind its first word and the blanks there.
-/

set_option autoImplicit false

namespace Companion.Yaml

/-! ### Numbers in base sixteen -/

theorem hexDigit?_hexDigit {n : Nat} (small : n < 16) : hexDigit? (Json.hexDigit n) = some n := by
  have known : ∀ n < 16, hexDigit? (Json.hexDigit n) = some n := by decide
  exact known n small

theorem length_hexDigits (count n : Nat) : (hexDigits count n).length = count := by
  induction count generalizing n with
  | zero => rfl
  | succ count ih => rw [hexDigits, List.length_append, ih, List.length_singleton]

/-- Digits are read from the front. -/
theorem hexValue?_append (front : List Char) (count n : Nat) (cs : List Char) :
    hexValue? (front.length + count) n (front ++ cs) =
      (hexValue? front.length n front).bind fun m => hexValue? count m cs := by
  induction front generalizing n with
  | nil => rw [List.length_nil, Nat.zero_add, List.nil_append]; rfl
  | cons c front ih =>
    rw [List.length_cons, Nat.add_right_comm, List.cons_append, hexValue?, hexValue?]
    cases hexDigit? c with
    | none => rfl
    | some d => exact ih (16 * n + d)

/-- The digits that were written give the number that they are of, as far as there are places. -/
theorem hexValue?_hexDigits (count n : Nat) (cs : List Char) :
    hexValue? count 0 (hexDigits count n ++ cs) = some (n % 16 ^ count) := by
  have alone : hexValue? count 0 (hexDigits count n) = some (n % 16 ^ count) := by
    induction count generalizing n with
    | zero => rw [Nat.pow_zero, Nat.mod_one]; rfl
    | succ count ih =>
      have front := length_hexDigits count (n / 16)
      have whole := hexValue?_append (hexDigits count (n / 16)) 1 0 [Json.hexDigit (n % 16)]
      rw [front, ih, Option.bind_some] at whole
      rw [hexDigits, whole, hexValue?, hexDigit?_hexDigit (Nat.mod_lt n (by decide)),
        Nat.pow_succ']
      have split := Nat.mod_mul (x := n) (a := 16) (b := 16 ^ count)
      exact congrArg some (by omega)
  have whole := hexValue?_append (hexDigits count n) 0 0 cs
  rwa [length_hexDigits, alone] at whole

theorem toNat_lt (c : Char) : c.toNat < 16 ^ 8 := by
  rcases c.valid with low | ⟨-, high⟩
  · exact Nat.lt_trans low (by decide)
  · exact Nat.lt_trans high (by decide)

/-! ### Places -/

/-- A place inside a line, before some characters. -/
structure Cursor.Before (c : Cursor) (cs : List Char) : Prop where
  rest : c.rest = cs
  inside : c.column ≠ 0

namespace Cursor.Before

variable {c : Cursor} {x : Char} {cs : List Char}

theorem skip (here : c.Before (x :: cs)) : c.skip.Before cs := by
  unfold Cursor.skip
  rw [here.rest]
  exact ⟨rfl, Nat.succ_ne_zero _⟩

theorem skipN (front : List Char) (here : c.Before (front ++ cs)) :
    (c.skipN front.length).Before cs := by
  induction front generalizing c with
  | nil => exact here
  | cons x front ih => exact ih (skip here)

theorem head? (here : c.Before (x :: cs)) : c.head? = some x := by
  rw [Cursor.head?, here.rest, List.head?_cons]

theorem not_boundary (here : c.Before cs) : c.atDocumentBoundary = false := by
  have column : (c.column == 0) = false := beq_false_of_ne here.inside
  simp [atDocumentBoundary, atDocumentMark, column]

end Cursor.Before

/-! ### Visible characters -/

theorem not_isBreak_of_visible {x : Char} (visible : ' ' ≤ x ∧ x ≤ '~') : isBreak x = false := by
  rw [Bool.eq_false_iff]
  intro breaks
  simp only [isBreak, Bool.or_eq_true, beq_iff_eq] at breaks
  rcases breaks with (((rfl | rfl) | rfl) | rfl) | rfl <;> exact absurd visible (by decide)

theorem not_isBlank_of_visible {x : Char} (visible : ' ' ≤ x ∧ x ≤ '~') (other : x ≠ ' ') :
    isBlank x = false := by
  rw [Bool.eq_false_iff]
  intro blank
  simp only [isBlank, Bool.or_eq_true, beq_iff_eq] at blank
  rcases blank with rfl | rfl
  · exact other rfl
  · exact absurd visible (by decide)

namespace Quoted

variable {c : Cursor} {cs : List Char}

/-! ### Characters -/

theorem readEscape_code {x : Char} (here : c.Before ('\\' :: 'U' :: (hexDigits 8 x.toNat ++ cs))) :
    ∃ c', c'.Before cs ∧ readEscape c = some (x, c') := by
  have skipped : (c.skipN 2).Before (hexDigits 8 x.toNat ++ cs) :=
    here.skipN ['\\', 'U']
  have behind := skipped.skipN _
  rw [length_hexDigits] at behind
  refine ⟨_, behind, ?_⟩
  have kind : c.ahead? 1 = some 'U' := by
    rw [Cursor.ahead?, here.rest]
    rfl
  have code := hexValue?_hexDigits 8 x.toNat cs
  rw [Nat.mod_eq_of_lt (toNat_lt x)] at code
  have valid : x.toNat.isValidChar := x.valid
  have escape : escape? 'U' = none := rfl
  simp [readEscape, kind, escape, codeLength?, skipped.rest, code, valid, guard]

/-- The mark of an escape before a character that stands for itself. -/
theorem readEscape_self {x : Char} (known : escape? x = some x)
    (here : c.Before ('\\' :: x :: cs)) :
    ∃ c', c'.Before cs ∧ readEscape c = some (x, c') := by
  have behind : (c.skipN 2).Before cs := here.skipN ['\\', x]
  refine ⟨_, behind, ?_⟩
  have kind : c.ahead? 1 = some x := by
    rw [Cursor.ahead?, here.rest]
    rfl
  simp [readEscape, kind, known]

/-- A character of a word stands there as it is, or as an escape. -/
theorem readWord_quoteChar {x : Char} (blank : x ≠ ' ') (here : c.Before (quoteChar x ++ cs)) :
    ∃ c', c'.Before cs ∧
      ∀ fuel text, readWord false (fuel + 1) text c = readWord false fuel (text ++ [x]) c' := by
  have escaped {kind : Char} {more : List Char} (first : c.Before ('\\' :: kind :: more))
      (inLine : isBreak kind = false) {c' : Cursor} (read : readEscape c = some (x, c'))
      (fuel : Nat) (text : List Char) :
      readWord false (fuel + 1) text c = readWord false fuel (text ++ [x]) c' := by
    have kind : c.ahead? 1 = some kind := by
      rw [Cursor.ahead?, first.rest]
      rfl
    have mark : isBlank '\\' = false ∧ isBreak '\\' = false := by decide
    simp [readWord, first.head?, kind, mark, inLine, read]
  unfold quoteChar at here
  split at here
  · next mark =>
    have known : escape? x = some x ∧ isBreak x = false := by
      rcases mark with rfl | rfl <;> decide
    obtain ⟨c', behind, read⟩ := readEscape_self known.1 here
    exact ⟨c', behind, escaped here known.2 read⟩
  · next plain =>
    obtain ⟨noQuote, noEscape⟩ := not_or.mp plain
    split at here
    · next visible =>
      have known : isBlank x = false ∧ isBreak x = false :=
        ⟨not_isBlank_of_visible visible blank, not_isBreak_of_visible visible⟩
      refine ⟨_, Cursor.Before.skip here, fun fuel text => ?_⟩
      simp [readWord, Cursor.Before.head? here, known, noQuote, noEscape]
    · obtain ⟨c', behind, read⟩ := readEscape_code here
      exact ⟨c', behind, escaped here rfl read⟩

/-! ### Words and blanks -/

/-- A word ends at a blank or at the closing quote. -/
theorem readWord_word {word : List Char} {x : Char} (noBlank : ' ' ∉ word) (ends : x = ' ' ∨ x = '"')
    (here : c.Before (word.flatMap quoteChar ++ x :: cs)) :
    ∃ c', c'.Before (x :: cs) ∧ ∀ fuel text, word.length < fuel →
      readWord false fuel text c = some (text ++ word, false, c') := by
  induction word generalizing c with
  | nil =>
    refine ⟨c, here, fun fuel text enough => ?_⟩
    obtain ⟨fuel, rfl⟩ := Nat.exists_eq_succ_of_ne_zero (Nat.ne_of_gt enough)
    rw [List.append_nil]
    rcases ends with rfl | rfl <;> simp [readWord, Cursor.Before.head? here, isBlank, isBreak]
  | cons y word ih =>
    obtain ⟨other, others⟩ := not_or.mp (mt List.mem_cons.mpr noBlank)
    rw [List.flatMap_cons, List.append_assoc] at here
    obtain ⟨next, behind, step⟩ := readWord_quoteChar (Ne.symm other) here
    obtain ⟨c', after, read⟩ := ih others behind
    refine ⟨c', after, fun fuel text enough => ?_⟩
    obtain ⟨fuel, rfl⟩ := Nat.exists_eq_succ_of_ne_zero (Nat.ne_zero_of_lt enough)
    rw [step, read fuel _ (Nat.lt_of_succ_lt_succ enough), List.append_assoc,
      List.singleton_append]

/-- Blanks on a line are kept. -/
theorem read_blanks {count : Nat} {x : Char} (ends : isBlank x = false ∧ isBreak x = false)
    (here : c.Before (List.replicate count ' ' ++ x :: cs)) :
    ∃ c', c'.Before (x :: cs) ∧ ∀ fuel blanks, count < fuel →
      Gap.read (fun _ => false) fuel ⟨blanks, [], [], false⟩ c =
        some (⟨blanks ++ List.replicate count ' ', [], [], false⟩, c') := by
  induction count generalizing c with
  | zero =>
    refine ⟨c, here, fun fuel blanks enough => ?_⟩
    obtain ⟨fuel, rfl⟩ := Nat.exists_eq_succ_of_ne_zero (Nat.ne_of_gt enough)
    simp [Gap.read, Cursor.Before.head? here, ends]
  | succ count ih =>
    rw [List.replicate_succ, List.cons_append] at here
    obtain ⟨c', behind, read⟩ := ih here.skip
    refine ⟨c', behind, fun fuel blanks enough => ?_⟩
    obtain ⟨fuel, rfl⟩ := Nat.exists_eq_succ_of_ne_zero (Nat.ne_zero_of_lt enough)
    have blank : isBlank ' ' = true := rfl
    simp [Gap.read, here.head?, blank, read fuel _ (Nat.lt_of_succ_lt_succ enough),
      List.replicate_succ]

/-- The first character of what stands for another one. -/
theorem exists_quoteChar {x : Char} (blank : x ≠ ' ') : ∃ y more, quoteChar x = y :: more ∧
    isBlank y = false ∧ isBreak y = false := by
  unfold quoteChar
  split
  · exact ⟨_, _, rfl, rfl, rfl⟩
  · split
    · next visible =>
      exact ⟨_, _, rfl, not_isBlank_of_visible visible blank, not_isBreak_of_visible visible⟩
    · exact ⟨_, _, rfl, rfl, rfl⟩

/-- A text is a word, the blanks behind it, and what follows those. -/
theorem exists_words (text : List Char) : ∃ word count rest,
    text = word ++ (List.replicate count ' ' ++ rest) ∧ ' ' ∉ word ∧ rest.head? ≠ some ' ' ∧
      (count = 0 → rest = []) := by
  induction text with
  | nil => exact ⟨[], 0, [], rfl, List.not_mem_nil, nofun, fun _ => rfl⟩
  | cons x text ih =>
    obtain ⟨word, count, rest, known, noBlank, first, whole⟩ := ih
    by_cases blank : x = ' '
    · cases word with
      | nil =>
        refine ⟨[], count + 1, rest, ?_, List.not_mem_nil, first, nofun⟩
        rw [known, blank]
        rfl
      | cons y word =>
        -- The blank stands alone before the next word.
        refine ⟨[], 1, text, by rw [blank]; rfl, List.not_mem_nil, ?_, nofun⟩
        rw [known]
        intro same
        exact noBlank (Option.some.inj same ▸ List.mem_cons_self ..)
    · refine ⟨x :: word, count, rest, by rw [known]; rfl, ?_, first, whole⟩
      exact List.not_mem_cons_of_ne_of_not_mem (Ne.symm blank) noBlank

theorem length_le_quoted (text : List Char) : text.length ≤ (text.flatMap quoteChar).length := by
  induction text with
  | nil => exact Nat.le_refl 0
  | cons x text ih =>
    have some : 0 < (quoteChar x).length := by
      unfold quoteChar
      split
      · exact Nat.succ_pos _
      · split <;> exact Nat.succ_pos _
    rw [List.flatMap_cons, List.length_append, List.length_cons]
    omega

theorem quoted_blanks (count : Nat) :
    (List.replicate count ' ').flatMap quoteChar = List.replicate count ' ' := by
  induction count with
  | zero => rfl
  | succ count ih =>
    rw [List.replicate_succ, List.flatMap_cons, ih]
    rfl

/-- After its first word a text is at its end, or goes on behind the blanks there. -/
theorem read_begins {word : List Char} {x : Char} (noBlank : ' ' ∉ word) (ends : x = ' ' ∨ x = '"')
    (here : c.Before (word.flatMap quoteChar ++ x :: cs)) :
    ∃ c', c'.Before (x :: cs) ∧ ∀ fuel before, Quoted.read false (fuel + 1) before c =
      if x = '"' then some (before ++ word, c'.skip)
      else (Gap.read (fun _ => false) (c'.rest.length + 1) Gap.empty c').bind fun found =>
        Quoted.read false fuel (before ++ word ++ found.1.fold) found.2 := by
  obtain ⟨c', behind, read⟩ := readWord_word noBlank ends here
  refine ⟨c', behind, fun fuel before => ?_⟩
  have enough : word.length < c.rest.length + 1 := by
    have size := length_le_quoted word
    rw [here.rest, List.length_append]
    omega
  have more : c.isAtEnd = false := by
    rw [Cursor.isAtEnd, here.rest]
    simp
  have quote : c'.isAt '"' = decide (x = '"') := by
    rw [Cursor.isAt, behind.head?, Bool.eq_iff_iff]
    simp
  simp [Quoted.read, here.not_boundary, more, read _ before enough, quote, guard, Gap.empty]

/-- A quoted text behind its first word and the blanks there. -/
theorem read_word {word rest : List Char} {count : Nat} (noBlank : ' ' ∉ word)
    (first : rest.head? ≠ some ' ')
    (here : c.Before (word.flatMap quoteChar ++
      (List.replicate (count + 1) ' ' ++ (rest.flatMap quoteChar ++ '"' :: cs)))) :
    ∃ c', c'.Before (rest.flatMap quoteChar ++ '"' :: cs) ∧ ∀ fuel before,
      Quoted.read false (fuel + 1) before c =
        Quoted.read false fuel (before ++ (word ++ List.replicate (count + 1) ' ')) c' := by
  have follows : ∃ x more, rest.flatMap quoteChar ++ '"' :: cs = x :: more ∧ isBlank x = false ∧
      isBreak x = false := by
    cases rest with
    | nil => exact ⟨'"', cs, rfl, rfl, rfl⟩
    | cons y rest =>
      obtain ⟨x, more, known, ends⟩ := exists_quoteChar fun same => first (congrArg some same)
      exact ⟨x, more ++ (rest.flatMap quoteChar ++ '"' :: cs), by simp [known], ends⟩
  obtain ⟨x, more, known, ends⟩ := follows
  rw [known] at here ⊢
  obtain ⟨middle, behind, begins⟩ := read_begins noBlank (.inl rfl) here
  have gap : middle.Before (List.replicate (count + 1) ' ' ++ x :: more) := behind
  obtain ⟨c', after, blanks⟩ := read_blanks ends gap
  refine ⟨c', after, fun fuel before => ?_⟩
  have enough : count + 1 < middle.rest.length + 1 := by
    rw [gap.rest, List.length_append, List.length_replicate]
    omega
  rw [begins, if_neg (by decide), Gap.empty, blanks _ [] enough]
  simp [Gap.fold]

/-- A text in double quotes is read as it was written. -/
theorem read_quoted {text : List Char} (here : c.Before (text.flatMap quoteChar ++ '"' :: cs)) :
    ∃ c', c'.Before cs ∧ ∀ fuel before, text.length < fuel →
      Quoted.read false fuel before c = some (before ++ text, c') := by
  -- What is left of the text behind a word and the blanks there is shorter.
  induction size : text.length using Nat.strong_induction_on generalizing text c with
  | _ length ih =>
    obtain ⟨word, count, rest, rfl, noBlank, first, whole⟩ := exists_words text
    cases count with
    | zero =>
      obtain rfl := whole rfl
      rw [List.replicate_zero, List.nil_append, List.append_nil] at here size ⊢
      obtain ⟨c', behind, begins⟩ := read_begins noBlank (.inr rfl) here
      refine ⟨_, behind.skip, fun fuel before enough => ?_⟩
      obtain ⟨fuel, rfl⟩ := Nat.exists_eq_succ_of_ne_zero (Nat.ne_zero_of_lt enough)
      rw [begins, if_pos rfl]
    | succ count =>
      rw [List.flatMap_append, List.flatMap_append, quoted_blanks, List.append_assoc,
        List.append_assoc] at here
      obtain ⟨c', behind, read⟩ := read_word noBlank first here
      have shorter : rest.length < length := by
        rw [← size, List.length_append, List.length_append, List.length_replicate]
        omega
      obtain ⟨last, after, others⟩ := ih rest.length shorter behind rfl
      refine ⟨last, after, fun fuel before enough => ?_⟩
      obtain ⟨fuel, rfl⟩ := Nat.exists_eq_succ_of_ne_zero (Nat.ne_zero_of_lt enough)
      rw [read, others fuel _ (by omega)]
      simp

end Quoted

end Companion.Yaml

import Companion.Decimal.Layout
import Companion.Proofs.Code.Lexing
import Companion.Proofs.Decimal.Shortest

/-! The text of a float tells its shortest decimal.

The text is read back as a rational: the digits before and behind the point are one number, which the
point and the exponent scale.
-/

set_option autoImplicit false

namespace Companion.Decimal

open Code.Lexer (digits toDigits_subset ne_of_mem_digits)

variable {ds front back : List Char}

/-! ### Reading back -/

/-- The number in digits with a point. -/
def significandValue (cs : List Char) : ℚ :=
  let fraction := (cs.dropWhile (· ≠ '.')).drop 1
  Nat.ofDigitChars 10 (cs.takeWhile (· ≠ '.') ++ fraction) 0 * (10 : ℚ) ^ (-(fraction.length : ℤ))

/-- The number in digits with a sign. -/
def exponentValue : List Char → ℤ
  | '-' :: ds => -(Nat.ofDigitChars 10 ds 0 : ℤ)
  | '+' :: ds => Nat.ofDigitChars 10 ds 0
  | ds => Nat.ofDigitChars 10 ds 0

/-- The number in digits with a point and an exponent. -/
def textValue (cs : List Char) : ℚ :=
  significandValue (cs.takeWhile (· ≠ 'e')) *
    (10 : ℚ) ^ exponentValue ((cs.dropWhile (· ≠ 'e')).drop 1)

theorem takeWhile_before {c : Char} (absent : c ∉ front) (back : List Char) :
    (front ++ c :: back).takeWhile (· ≠ c) = front ∧
      (front ++ c :: back).dropWhile (· ≠ c) = c :: back := by
  have all : ∀ d ∈ front, decide (d ≠ c) = true := fun d member =>
    decide_eq_true (ne_of_mem_of_not_mem member absent)
  rw [List.takeWhile_append_of_pos all, List.dropWhile_append_of_pos all]
  simp

theorem takeWhile_absent {c : Char} (absent : c ∉ front) :
    front.takeWhile (· ≠ c) = front ∧ front.dropWhile (· ≠ c) = [] := by
  have all : ∀ d ∈ front, decide (d ≠ c) = true := fun d member =>
    decide_eq_true (ne_of_mem_of_not_mem member absent)
  exact ⟨List.takeWhile_eq_self_iff.mpr all, List.dropWhile_eq_nil_iff.mpr all⟩

theorem not_mem_of_decimal {c : Char} (decimal : ds ⊆ digits) (other : c ∉ digits) : c ∉ ds :=
  fun member => other (decimal member)

theorem significandValue_point (decimal : front ⊆ digits) (back : List Char) :
    significandValue (front ++ '.' :: back) =
      Nat.ofDigitChars 10 (front ++ back) 0 * (10 : ℚ) ^ (-(back.length : ℤ)) := by
  have absent : '.' ∉ front := not_mem_of_decimal decimal (by decide)
  obtain ⟨whole, fraction⟩ := takeWhile_before absent back
  rw [significandValue, whole, fraction]
  rfl

theorem significandValue_whole (decimal : ds ⊆ digits) :
    significandValue ds = Nat.ofDigitChars 10 ds 0 := by
  have absent : '.' ∉ ds := not_mem_of_decimal decimal (by decide)
  obtain ⟨whole, fraction⟩ := takeWhile_absent absent
  rw [significandValue, whole, fraction]
  simp

theorem textValue_plain (absent : 'e' ∉ front) : textValue front = significandValue front := by
  obtain ⟨whole, rest⟩ := takeWhile_absent absent
  rw [textValue, whole, rest]
  simp [exponentValue, Nat.ofDigitChars]

theorem textValue_exponent (absent : 'e' ∉ front) (back : List Char) :
    textValue (front ++ 'e' :: back) = significandValue front * (10 : ℚ) ^ exponentValue back := by
  obtain ⟨whole, rest⟩ := takeWhile_before absent back
  rw [textValue, whole, rest]
  rfl

theorem exponentValue_digits (decimal : ds ⊆ digits) :
    exponentValue ds = Nat.ofDigitChars 10 ds 0 := by
  unfold exponentValue
  split
  · exact absurd (decimal (List.mem_cons_self ..)) (by decide)
  · rfl
  · rfl

theorem letter_not_mem (decimal : front ⊆ digits) (decimal' : back ⊆ digits) :
    'e' ∉ front ++ '.' :: back := by
  simp only [List.mem_append, List.mem_cons, not_or]
  exact ⟨not_mem_of_decimal decimal (by decide), by decide, not_mem_of_decimal decimal' (by decide)⟩

theorem textValue_point (decimal : front ⊆ digits) (decimal' : back ⊆ digits) :
    textValue (front ++ '.' :: back) =
      Nat.ofDigitChars 10 (front ++ back) 0 * (10 : ℚ) ^ (-(back.length : ℤ)) := by
  rw [textValue_plain (letter_not_mem decimal decimal'), significandValue_point decimal]

/-! ### Layouts -/

namespace Layout

theorem toList_zeros (count : Nat) : (zeros count).toList = List.replicate count '0' :=
  String.toList_ofList

theorem decimal_zeros (count : Nat) : List.replicate count '0' ⊆ digits := by
  intro c member
  rw [(List.mem_replicate.mp member).2]
  decide

theorem ofDigitChars_zeros (count : Nat) (ds : List Char) :
    Nat.ofDigitChars 10 (List.replicate count '0' ++ ds) 0 = Nat.ofDigitChars 10 ds 0 := by
  rw [Nat.ofDigitChars_append, Nat.ofDigitChars_replicate_zero, Nat.mul_zero]

/-- Digits with a point at a place mean the number that is less by the digits behind the place. -/
theorem textValue_positional {text : String} (decimal : text.toList ⊆ digits) (point : Int) :
    textValue (positional text point).toList =
      Nat.ofDigitChars 10 text.toList 0 * (10 : ℚ) ^ (point - text.length) := by
  have size : text.length = text.toList.length := rfl
  unfold positional
  split
  · next before =>
    have list : ("0." ++ zeros (-point).toNat ++ text).toList =
        ['0'] ++ '.' :: (List.replicate (-point).toNat '0' ++ text.toList) := by
      simp [toList_zeros]
    rw [list, textValue_point (by decide) (List.append_subset.mpr ⟨decimal_zeros _, decimal⟩),
      show ['0'] = List.replicate 1 '0' from rfl, ofDigitChars_zeros, ofDigitChars_zeros,
      List.length_append, List.length_replicate]
    congr 2
    omega
  · next after =>
    split
    · next whole =>
      have list : (text ++ zeros (point.toNat - text.length) ++ ".0").toList =
          (text.toList ++ List.replicate (point.toNat - text.length) '0') ++ '.' :: ['0'] := by
        simp [toList_zeros]
      rw [list, textValue_point (List.append_subset.mpr ⟨decimal, decimal_zeros _⟩) (by decide),
        List.append_assoc, ← List.replicate_succ', Nat.ofDigitChars_append,
        Nat.ofDigitChars_replicate_zero]
      have power : point - text.length = (point.toNat - text.length : Nat) := by omega
      rw [power, zpow_natCast]
      push_cast
      rw [pow_succ]
      norm_num
      ring
    · next inside =>
      have list : (String.ofList (text.toList.take point.toNat) ++ "." ++
          String.ofList (text.toList.drop point.toNat)).toList =
            text.toList.take point.toNat ++ '.' :: text.toList.drop point.toNat := by
        simp
      rw [list, textValue_point (fun _ member => decimal (List.mem_of_mem_take member))
        (fun _ member => decimal (List.mem_of_mem_drop member)), List.take_append_drop,
        List.length_drop]
      congr 2
      omega

variable (layout : Layout)

/-- The exponent behind its letter. -/
theorem exponentValue_exponent (n : Int) :
    exponentValue ((if n < 0 then "-" else if layout.plus then "+" else "") ++
      zeros (layout.exponentWidth - (toString n.natAbs).length) ++ toString n.natAbs).toList = n := by
  have written : (toString n.natAbs).toList = Nat.toDigits 10 n.natAbs := Nat.toList_repr
  have size (count : Nat) :
      Nat.ofDigitChars 10 (List.replicate count '0' ++ Nat.toDigits 10 n.natAbs) 0 = n.natAbs := by
    rw [ofDigitChars_zeros, Nat.ofDigitChars_ten_toDigits]
  rw [String.toList_append, String.toList_append, toList_zeros, written, List.append_assoc]
  split
  · next negative =>
    change -(Nat.ofDigitChars 10 (List.replicate _ '0' ++ Nat.toDigits 10 n.natAbs) 0 : ℤ) = n
    rw [size]
    omega
  · split
    · change (Nat.ofDigitChars 10 (List.replicate _ '0' ++ Nat.toDigits 10 n.natAbs) 0 : ℤ) = n
      rw [size]
      omega
    · rw [exponentValue_digits (List.append_subset.mpr ⟨by simp, List.append_subset.mpr
        ⟨decimal_zeros _, toDigits_subset _⟩⟩), String.toList_empty, List.nil_append, size]
      omega

/-- Digits with an exponent mean the number with the first of its digits there. -/
theorem textValue_exponential {text : String} (decimal : text.toList ⊆ digits)
    (some : text.toList ≠ []) (exponent : Int) :
    textValue (layout.exponential text exponent).toList =
      Nat.ofDigitChars 10 text.toList 0 * (10 : ℚ) ^ (exponent - (text.length - 1)) := by
  have size : text.length = text.toList.length := rfl
  have ten : (10 : ℚ) ≠ 0 := by norm_num
  have behind := layout.exponentValue_exponent exponent
  set tail := (if exponent < 0 then "-" else if layout.plus then "+" else "") ++
    zeros (layout.exponentWidth - (toString exponent.natAbs).length) ++ toString exponent.natAbs
    with listed
  have list (m : String) : (m ++ "e" ++ (if exponent < 0 then "-" else if layout.plus then "+" else "") ++
      zeros (layout.exponentWidth - (toString exponent.natAbs).length) ++
      toString exponent.natAbs).toList = m.toList ++ 'e' :: tail.toList := by
    simp [listed]
  unfold exponential
  simp only
  rw [list, size]
  split
  · next first second rest known =>
    rw [known] at decimal ⊢
    obtain ⟨digit, decimal'⟩ := List.cons_subset.mp decimal
    have single : [first] ⊆ digits := List.cons_subset.mpr ⟨digit, List.nil_subset _⟩
    have point : (String.ofList (first :: '.' :: second :: rest)).toList =
        [first] ++ '.' :: second :: rest := String.toList_ofList
    rw [point, textValue_exponent (letter_not_mem single decimal'), significandValue_point single,
      behind, mul_assoc, ← zpow_add₀ ten]
    congr 2
    simp
    ring
  · next none =>
    have single : text.toList.length = 1 := by
      rcases known : text.toList with _ | ⟨first, _ | ⟨second, rest⟩⟩
      · exact absurd known some
      · rfl
      · exact absurd known (none first second rest)
    rw [textValue_exponent (not_mem_of_decimal decimal (by decide)), significandValue_whole decimal,
      behind, single]
    simp

theorem toList_digits (n : Nat) : (toString n).toList = Nat.toDigits 10 n ∧
    (toString n).toList ⊆ digits ∧ (toString n).toList ≠ [] := by
  have written : (toString n).toList = Nat.toDigits 10 n := Nat.toList_repr
  exact ⟨written, written ▸ toDigits_subset n, written ▸ Nat.toDigits_ne_nil⟩

/-- The text of a positive number means its shortest decimal. -/
theorem textValue_magnitude (b : Binary) :
    textValue (layout.magnitude b).toList = (b.shortest layout.tie).value := by
  obtain ⟨written, decimal, some⟩ := toList_digits (b.shortest layout.tie).digits
  unfold magnitude
  simp only
  split
  · rw [textValue_positional decimal, written, Nat.ofDigitChars_ten_toDigits, Scientific.value]
    congr 2
    ring
  · rw [textValue_exponential layout decimal some, written, Nat.ofDigitChars_ten_toDigits,
      Scientific.value]
    congr 2
    ring

/-! ### Characters -/

/-- The characters that numbers are written with. -/
def marks : List Char := "0123456789.e+-".toList

theorem digits_subset : digits ⊆ marks := by decide

/-- What can stand before a sign: it begins with a digit, and it is no integer. -/
structure IsUnsigned (text : List Char) : Prop where
  digit : ∃ d rest, text = d :: rest ∧ d ∈ digits
  marks : text ⊆ marks
  notWhole : ¬text ⊆ '-' :: digits

theorem isUnsigned_positional {text : String} (decimal : text.toList ⊆ digits)
    (some : text.toList ≠ []) (point : Int) : IsUnsigned (positional text point).toList := by
  have any : ∃ whole fraction, (positional text point).toList = whole ++ '.' :: fraction ∧
      whole ≠ [] ∧ whole ⊆ digits ∧ fraction ⊆ digits := by
    unfold positional
    split
    · exact ⟨['0'], List.replicate (-point).toNat '0' ++ text.toList, by simp [toList_zeros], nofun,
        by decide, List.append_subset.mpr ⟨decimal_zeros _, decimal⟩⟩
    · next after =>
      split
      · exact ⟨text.toList ++ List.replicate (point.toNat - text.length) '0', ['0'],
          by simp [toList_zeros], fun none => some (List.append_eq_nil_iff.mp none).1,
          List.append_subset.mpr ⟨decimal, decimal_zeros _⟩, by decide⟩
      · refine ⟨text.toList.take point.toNat, text.toList.drop point.toNat, by simp, ?_,
          fun _ member => decimal (List.mem_of_mem_take member),
          fun _ member => decimal (List.mem_of_mem_drop member)⟩
        rw [ne_eq, List.take_eq_nil_iff, not_or]
        exact ⟨by omega, some⟩
  obtain ⟨whole, fraction, known, filled, left, right⟩ := any
  rw [known]
  refine ⟨?_, List.append_subset.mpr ⟨fun _ member => digits_subset (left member),
    List.cons_subset.mpr ⟨by decide, fun _ member => digits_subset (right member)⟩⟩, fun decimal => ?_⟩
  · obtain ⟨d, rest, rfl⟩ := List.exists_cons_of_ne_nil filled
    exact ⟨d, _, rfl, left (List.mem_cons_self ..)⟩
  · exact absurd (decimal (List.mem_append_right _ (List.mem_cons_self ..))) (by decide)

theorem isUnsigned_append (begins : ∃ d rest, front = d :: rest ∧ d ∈ digits)
    (numeric : front ⊆ marks) (numeric' : back ⊆ marks) (letter : 'e' ∈ back) :
    IsUnsigned (front ++ back) := by
  obtain ⟨d, rest, rfl, digit⟩ := begins
  refine ⟨⟨d, _, List.cons_append .., digit⟩, List.append_subset.mpr ⟨numeric, numeric'⟩,
    fun decimal => ?_⟩
  exact absurd (decimal (List.mem_append_right _ letter)) (by decide)

theorem isUnsigned_exponential {text : String} (decimal : text.toList ⊆ digits)
    (some : text.toList ≠ []) (exponent : Int) :
    IsUnsigned (layout.exponential text exponent).toList := by
  have sign : (if exponent < 0 then "-" else if layout.plus then "+" else "").toList ⊆ marks := by
    split
    · decide
    · split <;> decide
  obtain ⟨-, size, -⟩ := toList_digits exponent.natAbs
  have numeric : text.toList ⊆ marks := fun _ member => digits_subset (decimal member)
  unfold exponential
  simp only
  rw [String.append_assoc, String.append_assoc, String.append_assoc, String.toList_append]
  refine isUnsigned_append ?_ ?_ ?_ (by simp)
  · split
    · next first second rest known =>
      rw [known] at decimal
      exact ⟨first, _, String.toList_ofList, decimal (List.mem_cons_self ..)⟩
    · obtain ⟨d, rest, known⟩ := List.exists_cons_of_ne_nil some
      exact ⟨d, rest, known, decimal (known ▸ List.mem_cons_self ..)⟩
  · split
    · next first second rest known =>
      rw [known] at numeric
      rw [String.toList_ofList]
      obtain ⟨digit, others⟩ := List.cons_subset.mp numeric
      exact List.cons_subset.mpr ⟨digit, List.cons_subset.mpr ⟨by decide, others⟩⟩
    · exact numeric
  · simp only [String.toList_append, List.append_subset]
    exact ⟨by decide, sign, fun _ member => digits_subset (decimal_zeros _ (toList_zeros _ ▸ member)),
      fun _ member => digits_subset (size member)⟩

theorem isUnsigned_magnitude (b : Binary) : IsUnsigned (layout.magnitude b).toList := by
  obtain ⟨written, decimal, some⟩ := toList_digits (b.shortest layout.tie).digits
  unfold magnitude
  simp only
  split
  · exact isUnsigned_positional decimal some _
  · exact isUnsigned_exponential layout decimal some _

end Layout

/-! ### Floats -/

/-- A float by its sign, its exponent and the bits behind the first. -/
def Decoded.ofParts (negative : Bool) (biased fraction : Nat) : Decoded :=
  if biased = 2047 then if fraction = 0 then .infinite negative else .notANumber
  else if biased = 0 then
    if fraction = 0 then .zero negative else .finite negative ⟨fraction, -1074, false⟩
  else
    .finite negative
      ⟨Word.count 52 + fraction, (biased : Int) - 1075, fraction = 0 && 1 < biased⟩

theorem decode_eq (x : Float) : ∃ sign biased fraction : Nat, decode x =
    .ofParts (sign = 1) biased fraction ∧ sign < 2 ∧ biased < 2 ^ 11 ∧ fraction < 2 ^ 52 ∧
      x.toBits.toNat = sign * 2 ^ 63 + biased * 2 ^ 52 + fraction := by
  have bits : x.toBits.toNat < 2 ^ 64 := x.toBits.toNat_lt
  refine ⟨x.toBits.toNat / 2 ^ 63, x.toBits.toNat / 2 ^ 52 % 2 ^ 11, x.toBits.toNat % 2 ^ 52, rfl,
    ?_, ?_, ?_, ?_⟩ <;> omega

theorem isFloat_of_decode {x : Float} {negative : Bool} {b : Binary}
    (known : decode x = .finite negative b) : b.IsFloat := by
  obtain ⟨sign, biased, fraction, parts, -, small, rest, -⟩ := decode_eq x
  rw [parts, Decoded.ofParts] at known
  have full : Word.count 52 = 2 ^ 52 := rfl
  split at known
  · split at known <;> cases known
  · split at known
    · split at known <;> cases known
      exact ⟨Nat.pos_of_ne_zero ‹_›, by simp only; omega, le_refl _, by simp only; omega, by simp only; omega,
        by simp⟩
    · cases known
      refine ⟨by simp only; omega, by simp only; omega, by simp only; omega, by simp only; omega,
        fun _ => by simp only; omega, ?_⟩
      simp only [Bool.and_eq_true, decide_eq_true_eq]
      omega

/-- A float is known by its parts, unless it is no number. -/
theorem eq_of_decode {x y : Float} (same : decode x = decode y) (number : decode x ≠ .notANumber) :
    x = y := by
  obtain ⟨sign, biased, fraction, parts, signs, small, rest, bits⟩ := decode_eq x
  obtain ⟨sign', biased', fraction', parts', signs', small', rest', bits'⟩ := decode_eq y
  have full : Word.count 52 = 2 ^ 52 := rfl
  have equal : x.toBits.toNat = y.toBits.toNat := by
    rw [parts, parts'] at same
    rw [parts] at number
    unfold Decoded.ofParts at same number
    split_ifs at same number <;>
      simp only [Decoded.infinite.injEq, Decoded.zero.injEq, Decoded.finite.injEq, Binary.mk.injEq,
        decide_eq_decide, reduceCtorEq, ne_eq, not_true_eq_false] at same number <;> omega
  obtain ⟨⟨word, valid⟩⟩ := x
  obtain ⟨⟨word', valid'⟩⟩ := y
  cases (UInt64.toNat_inj.mp equal : word = word')
  rfl

namespace Layout

/-- A number with its sign. -/
def signed (negative : Bool) (text : String) : String := if negative then "-" ++ text else text

/-- A sign is no digit. -/
theorem signed_inj {negative negative' : Bool} {text text' : String}
    (begins : ∃ d rest, text.toList = d :: rest ∧ d ∈ digits)
    (begins' : ∃ d rest, text'.toList = d :: rest ∧ d ∈ digits)
    (same : signed negative text = signed negative' text') : negative = negative' ∧ text = text' := by
  have unsigned {t t' : String} (begins : ∃ d rest, t.toList = d :: rest ∧ d ∈ digits)
      (same : t = "-" ++ t') : False := by
    obtain ⟨d, rest, known, digit⟩ := begins
    rw [same, String.toList_append] at known
    exact absurd ((List.cons.inj known).1 ▸ digit) (by decide)
  cases negative <;> cases negative'
  · exact ⟨rfl, same⟩
  · exact (unsigned begins same).elim
  · exact (unsigned begins' same.symm).elim
  · exact ⟨rfl, String.append_right_inj _ |>.mp same⟩

/-- What a float with a sign is written as before the sign, unless it is an infinity. -/
def Writes (layout : Layout) (d : Decoded) (negative : Bool) (text : String) : Prop :=
  (d = .zero negative ∧ text = "0.0") ∨ ∃ b, d = .finite negative b ∧ text = layout.magnitude b

variable {layout : Layout}

theorem Writes.isUnsigned {d : Decoded} {negative : Bool} {text : String}
    (writes : layout.Writes d negative text) : IsUnsigned text.toList := by
  rcases writes with ⟨-, rfl⟩ | ⟨b, -, rfl⟩
  · exact ⟨⟨'0', ['.', '0'], rfl, by decide⟩, by decide, by decide⟩
  · exact layout.isUnsigned_magnitude b

theorem Writes.isNumber {d : Decoded} {negative : Bool} {text : String}
    (writes : layout.Writes d negative text) : d ≠ .notANumber := by
  rcases writes with ⟨rfl, -⟩ | ⟨b, rfl, -⟩ <;> nofun

theorem exists_writes (layout : Layout) {x : Float} (finite : isFinite x = true) : ∃ negative text,
    layout.Writes (decode x) negative text ∧ layout.write x = signed negative text := by
  unfold isFinite at finite
  unfold write
  cases known : decode x with
  | notANumber => rw [known] at finite; cases finite
  | infinite => rw [known] at finite; cases finite
  | zero negative => exact ⟨negative, "0.0", .inl ⟨rfl, rfl⟩, rfl⟩
  | finite negative b => exact ⟨negative, _, .inr ⟨b, rfl, rfl⟩, rfl⟩

/-- What one text is written for is one float. -/
theorem Writes.eq {x y : Float} {negative : Bool} {text : String}
    (writes : layout.Writes (decode x) negative text)
    (writes' : layout.Writes (decode y) negative text) : decode x = decode y := by
  have holds {x : Float} {b : Binary} (known : decode x = .finite negative b)
      (written : text = layout.magnitude b) : b.Holds (textValue text.toList) := by
    rw [written, textValue_magnitude]
    exact ((isFloat_of_decode known).holds_shortest _).1
  have zero : textValue "0.0".toList = 0 := by decide +kernel
  rcases writes with ⟨known, rfl⟩ | ⟨b, known, written⟩
  · rcases writes' with ⟨known', -⟩ | ⟨b, known', written⟩
    · exact known.trans known'.symm
    · exact absurd zero ((isFloat_of_decode known').pos_of_holds (holds known' written)).ne'
  · rcases writes' with ⟨-, rfl⟩ | ⟨b', known', written'⟩
    · exact absurd zero ((isFloat_of_decode known).pos_of_holds (holds known written)).ne'
    · rw [known, known', (isFloat_of_decode known).eq_of_holds (isFloat_of_decode known')
        (holds known written) (holds known' written')]

/-- The text of a finite float is not that of another one. -/
theorem write_injective {x y : Float} (finite : isFinite x = true) (finite' : isFinite y = true)
    (same : layout.write x = layout.write y) : x = y := by
  obtain ⟨negative, text, writes, known⟩ := layout.exists_writes finite
  obtain ⟨negative', text', writes', known'⟩ := layout.exists_writes finite'
  rw [known, known'] at same
  obtain ⟨rfl, rfl⟩ := signed_inj writes.isUnsigned.digit writes'.isUnsigned.digit same
  exact eq_of_decode (writes.eq writes') writes.isNumber

end Layout

end Companion.Decimal

import Companion.Code.Number
import Companion.Proofs.Code.Names

/-! How the tokens of generated text are read, and the decimal digits of numbers. -/

set_option autoImplicit false

namespace Companion.Code.Lexer

open Unicode (isIdentifierStart isIdentifierContinue)

/-! ### One token -/

/-- What opens no blank or comment opens a bracket or a leaf. -/
theorem step_visible {c : Char} {rest : List Char} (visible : isSpace c = false) (slash : c ≠ '/')
    (written : c = '(' → rest.head? ≠ some '/') :
    step (c :: rest) = match bracket? c with
      | some token => some ([token], rest)
      | none => (leaf? (c :: rest)).map fun (token, rest) => ([token], rest) := by
  have comment : plainComment? (c :: rest) = none := by
    unfold plainComment?
    split <;> simp_all
  have doc : docComment? (c :: rest) = none := by
    unfold docComment?
    split <;> simp_all
  have failed : failed? (c :: rest) = none := by
    have opened : failedLiteral.toList = '(' :: '/' :: "*ERROR*/)".toList := by decide
    by_cases parenthesis : c = '('
    · cases rest with
      | nil => simp [failed?, opened, List.isPrefixOf?, parenthesis]
      | cons d rest =>
        have other : '/' ≠ d := by
          rintro rfl
          exact written parenthesis rfl
        simp [failed?, opened, List.isPrefixOf?, parenthesis, other]
    · simp [failed?, opened, List.isPrefixOf?, Ne.symm parenthesis]
  simp only [step, visible, comment, doc, failed]
  rfl

theorem step_bracket {c : Char} {rest : List Char} {token : Token}
    (bracket : bracket? c = some token) (written : c = '(' → rest.head? ≠ some '/') :
    step (c :: rest) = some ([token], rest) := by
  have listed : c ∈ ['(', ')', '[', ']', '\x7b', '\x7d'] := by
    unfold bracket? at bracket
    split at bracket <;> simp_all
  have visible : ∀ c ∈ ['(', ')', '[', ']', '\x7b', '\x7d'], isSpace c = false ∧ c ≠ '/' :=
    Chars.forall_mem_of_all (by decide)
  rw [step_visible (visible c listed).1 (visible c listed).2 written, bracket]

theorem step_blank (rest : List Char) : step (' ' :: rest) = some ([], rest) := rfl

/-- The marks of types and conditions, apart from the quote of a lifetime. -/
def plainMarks : List Char :=
  ['&', '<', '>', ',', ';', '+', ':', '%', '=', '*', '-', '.', '|']

theorem step_mark {c : Char} (listed : c ∈ plainMarks) (rest : List Char) :
    step (c :: rest) = some ([.punct c (mark? rest).isSome], rest) := by
  have known : ∀ c ∈ plainMarks, isSpace c = false ∧ c ≠ '/' ∧ c ≠ '(' ∧ c ≠ '\'' ∧
      bracket? c = none ∧ isDecimal c = false ∧ marks.contains c = true ∧
      c ∉ ['"', 'r', 'b', 'c'] :=
    Chars.forall_mem_of_all (by decide +kernel)
  obtain ⟨visible, slash, parenthesis, quote, bracket, decimal, mark, letter⟩ := known c listed
  have quoted : quoted? (c :: rest) = none := by
    unfold quoted?
    split <;> simp_all
  have character : character? (c :: rest) = none := by
    unfold character?
    split <;> simp_all
  have number : number? (c :: rest) = none := by
    simp [number?, decimal]
  have marked : mark? (c :: rest) = some (c, rest) := by
    simp [mark?, slash, List.contains_iff_mem.mp mark]
  have punct : punct? (c :: rest) = some (.punct c (mark? rest).isSome, rest) := by
    rw [punct?, marked]
    split
    next none => cases none
    next same => exact absurd (by simpa using congrArg (·.map Prod.fst) same) quote
    next same => cases same; rfl
  rw [step_visible visible slash (absurd · parenthesis), bracket]
  simp [leaf?, literal?, quoted, character, number, punct]

/-! ### Names -/

theorem ne_of_isIdentifierStart {c d : Char} (start : isIdentifierStart c = true)
    (other : isIdentifierStart d = false) : c ≠ d := by
  rintro rfl
  rw [start] at other
  cases other

def digits : List Char := "0123456789".toList

theorem isDecimal_of_mem_digits {d : Char} (digit : d ∈ digits) : isDecimal d = true := by
  have known : ∀ d ∈ digits, isDecimal d = true := Chars.forall_mem_of_all (by decide)
  exact known d digit

theorem mem_digits_of_isDecimal {c : Char} (decimal : isDecimal c = true) : c ∈ digits := by
  have known : ∀ n ∈ List.range' 48 10, Char.ofNat n ∈ digits := by decide
  simp only [isDecimal, Bool.and_eq_true, decide_eq_true_eq] at decimal
  have lower : 48 ≤ c.toNat := decimal.1
  have upper : c.toNat ≤ 57 := decimal.2
  have listed := known c.toNat (by simp only [List.mem_range'_1]; omega)
  rwa [Char.ofNat_toNat] at listed

theorem isDecimal_of_isIdentifierStart {c : Char} (start : isIdentifierStart c = true) :
    isDecimal c = false := by
  have unlettered : ∀ c ∈ digits, isIdentifierStart c = false :=
    Chars.forall_mem_of_all (by decide)
  by_contra decimal
  rw [unlettered c (mem_digits_of_isDecimal (by simpa using decimal))] at start
  cases start

theorem mark?_of_isIdentifierStart {c : Char} (start : isIdentifierStart c = true)
    (rest : List Char) : mark? (c :: rest) = none := by
  have unmarked : ∀ d ∈ marks, isIdentifierStart d = false :=
    Chars.forall_mem_of_all (by decide +kernel)
  have absent : c ∉ marks := by
    intro member
    rw [unmarked c member] at start
    cases start
  simp [mark?, absent]

theorem rawFromHashes_eq_none {q : Quoted} {cs : List Char}
    (unquoted : (cs.dropWhile (· = '#')).head? ≠ some '"') : rawFromHashes q cs = none := by
  unfold rawFromHashes
  split
  next opened => simp [opened] at unquoted
  next => rfl

theorem IsTail.rawFromHashes {cs : List Char} (tail : IsTail cs) (q : Quoted) :
    rawFromHashes q cs = none := by
  apply rawFromHashes_eq_none
  cases cs with
  | nil => simp
  | cons c rest => simp [tail.head.1, tail.head.2.1]

/-- A text that opens with a name, whatever comes after its first letters. -/
inductive OpensName : List Char → Prop
  | plain {c : Char} {tail : List Char} (start : isIdentifierStart c = true)
      (tailed : IsTail tail) :
      OpensName (c :: tail)
  | raw {c : Char} {tail : List Char} (start : isIdentifierStart c = true) :
      OpensName ('r' :: '#' :: c :: tail)

theorem opensName_append {name rest : List Char} (named : IsName name) (ends : EndsName rest) :
    OpensName (name ++ rest) := by
  cases named with
  | plain letters =>
    obtain ⟨c, more, rfl⟩ := List.exists_cons_of_ne_nil letters.ne_nil
    exact .plain letters.1 (isTail_append letters.2 ends)
  | @raw word letters allowed =>
    obtain ⟨c, more, rfl⟩ := List.exists_cons_of_ne_nil letters.ne_nil
    exact .raw letters.1

namespace OpensName

variable {cs : List Char}

theorem exists_start (opens : OpensName cs) :
    ∃ c tail, cs = c :: tail ∧ isIdentifierStart c = true := by
  cases opens with
  | plain start _ => exact ⟨_, _, rfl, start⟩
  | raw _ => exact ⟨_, _, rfl, by decide⟩

theorem quoted? (opens : OpensName cs) : quoted? cs = none := by
  cases opens with
  | @plain c tail start tailed =>
    unfold Lexer.quoted?
    split
    next same => cases same; cases start
    next same => cases same; simp [tailed.rawFromHashes]
    next same => cases same; exact absurd rfl tailed.head.1
    next same => cases same; simp [(tailed.rest (by decide)).rawFromHashes]
    next same => cases same; exact absurd rfl tailed.head.1
    next same => cases same; simp [(tailed.rest (by decide)).rawFromHashes]
    next => rfl
  | @raw c tail start =>
    have unquoted : c ≠ '"' := ne_of_isIdentifierStart start (by decide)
    have unhashed : c ≠ '#' := ne_of_isIdentifierStart start (by decide)
    have raw : rawFromHashes .text ('#' :: c :: tail) = none := by
      apply rawFromHashes_eq_none
      simp [unquoted, unhashed]
    simp [Lexer.quoted?, raw]

theorem character? (opens : OpensName cs) : character? cs = none := by
  cases opens with
  | @plain c tail start tailed =>
    unfold Lexer.character?
    split
    next same => cases same; exact absurd rfl tailed.head.2.2
    next same => cases same; cases start
    next => rfl
  | raw start => rfl

theorem number? (opens : OpensName cs) : number? cs = none := by
  obtain ⟨c, tail, rfl, start⟩ := opens.exists_start
  simp [Lexer.number?, isDecimal_of_isIdentifierStart start]

/-- The quote before a name opens no character. -/
theorem unclosed (opens : OpensName cs) : Lexer.character? ('\'' :: cs) = none := by
  cases opens with
  | @plain c tail start tailed =>
    have escaped : c ≠ '\\' := ne_of_isIdentifierStart start (by decide)
    have char : quotedChar? (c :: tail) = some ([c], tail) := by
      unfold quotedChar?
      split <;> simp_all
    have unquoted : closeQuote ([c], tail) = none := by
      unfold closeQuote
      split
      next same => cases same; exact absurd rfl tailed.head.2.2
      next => rfl
    simp [Lexer.character?, char, unquoted]
  | raw start => rfl

theorem literal? (opens : OpensName cs) : literal? cs = none := by
  rw [Lexer.literal?, opens.quoted?, opens.character?, opens.number?]

theorem literalOpenings (opens : OpensName cs) :
    literalOpenings.any (·.isPrefixOf cs) = false := by
  by_contra opened
  simp only [Bool.not_eq_false, List.any_eq_true, List.isPrefixOf_iff_prefix] at opened
  obtain ⟨opening, listed, more, rfl⟩ := opened
  have goesOn : isIdentifierContinue 'r' = true := by decide
  simp only [Lexer.literalOpenings, List.map_cons, List.map_nil, List.mem_cons, List.not_mem_nil,
    or_false] at listed
  -- a quote or a hash would follow a letter of the name, or its raw mark
  rcases listed with rfl | rfl | rfl | rfl | rfl | rfl | rfl | rfl | rfl | rfl <;>
    rcases opens with ⟨-, tailed⟩ | quoted
  all_goals
    first
    | exact absurd quoted (by decide)
    | exact absurd rfl tailed.head.1
    | exact absurd rfl tailed.head.2.1
    | exact absurd rfl tailed.head.2.2
    | exact absurd rfl (tailed.rest goesOn).head.1
    | exact absurd rfl (tailed.rest goesOn).head.2.1

theorem step (opens : OpensName cs) :
    step cs = (anyIdent? cs).map fun (name, rest) => ([.ident (String.ofList name)], rest) := by
  have literal := opens.literal?
  have noOpening := opens.literalOpenings
  obtain ⟨c, tail, rfl, start⟩ := opens.exists_start
  have visible : isSpace c = false := by
    by_contra space
    rw [not_isIdentifierStart_of_isSpace (by simpa using space)] at start
    cases start
  have bracket : bracket? c = none := by
    unfold bracket?
    split <;> first | rfl | cases start
  have punct : punct? (c :: tail) = none := by
    rw [punct?, mark?_of_isIdentifierStart start]
  have written : c = '(' → tail.head? ≠ some '/' := by
    rintro rfl
    cases start
  rw [step_visible visible (ne_of_isIdentifierStart start (by decide)) written, bracket]
  simp [leaf?, literal, punct, ident?, noOpening]
  rfl

end OpensName

theorem step_name {name rest : List Char} (named : IsName name) (ends : EndsName rest) :
    step (name ++ rest) = some ([.ident (String.ofList name)], rest) := by
  rw [(opensName_append named ends).step, anyIdent?_append named ends]
  rfl

/-- A quote before a name opens a lifetime. -/
theorem step_quote {name rest : List Char} (named : IsName name) (ends : EndsName rest) :
    step ('\'' :: (name ++ rest)) = some ([.punct '\'' true], name ++ rest) := by
  have opens := opensName_append named ends
  have after : rest.head? ≠ some '\'' ∧ rest.head? ≠ some '#' := by
    cases rest with
    | nil => simp
    | cons c rest => simpa using ⟨ends.2.2.2, ends.2.2.1⟩
  have literal : literal? ('\'' :: (name ++ rest)) = none := by
    rw [literal?, opens.unclosed]
    rfl
  have punct : punct? ('\'' :: (name ++ rest)) = some (.punct '\'' true, name ++ rest) := by
    have marked : mark? ('\'' :: (name ++ rest)) = some ('\'', name ++ rest) := by
      rw [mark?, if_neg (by simp), if_pos (by decide +kernel)]
    rw [punct?, marked]
    simp only [anyIdent?_append named ends]
    split
    next same => exact absurd same after.1
    next same => exact absurd same after.2
    next => rfl
  rw [step_visible (by decide) (by decide) (by simp)]
  simp [bracket?, leaf?, literal, punct]

end Companion.Code.Lexer

/-! ### Numbers that are written in decimal digits -/

namespace Companion.Code

namespace Lexer

open Unicode (isIdentifierStart isIdentifierContinue)

theorem toDigits_subset (n : Nat) : Nat.toDigits 10 n ⊆ digits := by
  intro c member
  have digit := Nat.isDigit_of_mem_toDigits (by decide) (by decide) member
  simp only [Char.isDigit, Bool.and_eq_true, decide_eq_true_eq] at digit
  refine mem_digits_of_isDecimal ?_
  simp only [isDecimal, Bool.and_eq_true, decide_eq_true_eq]
  exact digit

theorem hexValue?_of_mem_digits {d : Char} (digit : d ∈ digits) :
    hexValue? d = some (d.toNat - 48) ∧ d.toNat - 48 < 10 := by
  have known : ∀ d ∈ digits, hexValue? d = some (d.toNat - 48) ∧ d.toNat - 48 < 10 :=
    Chars.forall_mem_of_all (by decide)
  exact known d digit

theorem ne_of_mem_digits {c d : Char} (digit : d ∈ digits) (other : c ∉ digits) : d ≠ c := by
  rintro rfl
  exact other digit

/-- What may follow a number: it neither goes on nor becomes a suffix of it. -/
def EndsNumber (after : List Char) : Prop := ∀ c, after.head? = some c → c ∈ [' ', ')', ']']

theorem endsNumber_mark {c : Char} (listed : c ∈ [' ', ')', ']']) (after : List Char) :
    EndsNumber (c :: after) := by
  rintro d ⟨⟩
  exact listed

theorem endsNumber_nil : EndsNumber [] := nofun

theorem EndsNumber.cases {after : List Char} (ends : EndsNumber after) :
    after = [] ∨ ∃ c more, after = c :: more ∧ isDecimalOrBreak c = false ∧ hexValue? c = none ∧
      isIdentifierStart c = false ∧ isIdentifierContinue c = false ∧
        c ∉ ['.', 'e', 'E', 'x', 'o', 'b', '_'] := by
  have known : ∀ c ∈ [' ', ')', ']'], isDecimalOrBreak c = false ∧ hexValue? c = none ∧
      isIdentifierStart c = false ∧ isIdentifierContinue c = false ∧
        c ∉ ['.', 'e', 'E', 'x', 'o', 'b', '_'] :=
    Chars.forall_mem_of_all (by decide)
  cases after with
  | nil => exact .inl rfl
  | cons c more => exact .inr ⟨c, more, rfl, known c (ends c rfl)⟩

variable {ds after : List Char}

theorem floatDigits_append (decimal : ds ⊆ digits) (ends : EndsNumber after) :
    floatDigits (ds ++ after) = none := by
  have whole : ∀ d ∈ ds, isDecimalOrBreak d = true := by
    intro d member
    simp [isDecimalOrBreak, isDecimal_of_mem_digits (decimal member)]
  rw [floatDigits, List.takeWhile_append_of_pos whole, List.dropWhile_append_of_pos whole]
  obtain rfl | ⟨c, more, rfl, stops, -, -, -, letters⟩ := ends.cases
  · rfl
  · have exponent : c ≠ '.' ∧ c ≠ 'e' ∧ c ≠ 'E' := by simp_all
    have absent : fraction (c :: more) = some none := by
      unfold fraction
      split
      next same => exact absurd (List.cons.inj same).1 exponent.1
      next => rfl
    rw [List.dropWhile_cons_of_neg (by simp [stops]), absent]
    simp [exponent]

theorem baseDigits_append (decimal : ds ⊆ digits) {empty : Bool} (written : ds = [] → empty = false)
    (ends : EndsNumber after) : baseDigits 10 empty (ds ++ after) = some (ds, after) := by
  induction ds generalizing empty with
  | nil =>
    rw [written rfl]
    obtain rfl | ⟨c, more, rfl, -, value, -, -, letters⟩ := ends.cases
    · rfl
    · have whole : c ≠ '_' := by simp_all
      simp [baseDigits, whole, value]
  | cons d ds ih =>
    have ⟨digit, more⟩ := List.cons_subset.mp decimal
    have ⟨value, small⟩ := hexValue?_of_mem_digits digit
    have whole : d ≠ '_' := ne_of_mem_digits digit (by decide)
    simp [baseDigits, whole, value, small, ih more (fun _ => rfl), Scanned.cons]

theorem intDigits_append (decimal : ds ⊆ digits) (written : ds ≠ []) (ends : EndsNumber after) :
    intDigits (ds ++ after) = some (ds, after) := by
  have second : ∀ c ∈ ['x', 'o', 'b'], ∀ more, ds ++ after ≠ '0' :: c :: more := by
    intro c letter more same
    match ds, written with
    | [d], _ =>
      have opens : after = c :: more := (List.cons.inj same).2
      obtain rfl | ⟨e, others, rfl, -, -, -, -, letters⟩ := ends.cases
      · cases opens
      · cases opens
        simp_all
    | d :: e :: ds, _ =>
      have second : e = c := (List.cons.inj (List.cons.inj same).2).1
      have undigited : ∀ c ∈ ['x', 'o', 'b'], c ∉ digits := Chars.forall_mem_of_all (by decide)
      exact undigited c letter (second ▸ decimal (by simp))
  rw [intDigits, baseDigits_append decimal (absurd · written) ends]
  · exact second 'x' (by decide)
  · exact second 'o' (by decide)
  · exact second 'b' (by decide)

/-- A number without a suffix ends where its digits do. -/
theorem endNumber_append (ends : EndsNumber after) :
    endNumber (ds, after) = some (ds, after) := by
  obtain rfl | ⟨c, more, rfl, -, -, start, letter, -⟩ := ends.cases
  · rfl
  · simp [endNumber, withSuffix, word?, start, letter]

theorem step_digits (decimal : ds ⊆ digits) (written : ds ≠ []) (ends : EndsNumber after) :
    step (ds ++ after) = some ([.literal (String.ofList ds)], after) := by
  have float := floatDigits_append decimal ends
  have int := intDigits_append decimal written ends
  obtain ⟨d, more, rfl⟩ := List.exists_cons_of_ne_nil written
  have digit := decimal List.mem_cons_self
  have number : number? (d :: more ++ after) = some (d :: more, after) := by
    rw [List.cons_append] at float int ⊢
    rw [number?, if_pos (isDecimal_of_mem_digits digit), float, int]
    exact endNumber_append ends
  have known : ∀ d ∈ digits, isSpace d = false ∧ bracket? d = none :=
    Chars.forall_mem_of_all (by decide)
  have quoted : quoted? (d :: (more ++ after)) = none := by
    have letter : d ≠ '"' ∧ d ≠ 'r' ∧ d ≠ 'b' ∧ d ≠ 'c' := by
      refine ⟨?_, ?_, ?_, ?_⟩ <;> exact ne_of_mem_digits digit (by decide)
    unfold quoted?
    split <;> simp_all
  have character : character? (d :: (more ++ after)) = none := by
    have letter : d ≠ '\'' ∧ d ≠ 'b' := by
      refine ⟨?_, ?_⟩ <;> exact ne_of_mem_digits digit (by decide)
    unfold character?
    split <;> simp_all
  rw [List.cons_append] at number ⊢
  rw [step_visible (known d digit).1 (ne_of_mem_digits digit (by decide))
    (absurd · (ne_of_mem_digits digit (by decide))), (known d digit).2]
  simp [leaf?, literal?, quoted, character, number]

end Lexer

namespace Number

open Lexer (digits)

theorem digitsFrom_cons {d : Char} (digit : d ∈ digits) (value : Option Nat) (ds : List Char) :
    digitsFrom 10 value (d :: ds) =
      digitsFrom 10 (some (10 * value.getD 0 + (d.toNat - '0'.toNat))) ds := by
  have ⟨known, small⟩ := Lexer.hexValue?_of_mem_digits digit
  have letter : d ≠ '_' ∧ d ≠ '.' ∧ d ≠ 'e' ∧ d ≠ 'E' := by
    refine ⟨?_, ?_, ?_, ?_⟩ <;> exact Lexer.ne_of_mem_digits digit (by decide)
  simp [digitsFrom, letter, known, small]

theorem digitsFrom_eq {ds : List Char} (decimal : ds ⊆ digits) (n : Nat) :
    digitsFrom 10 (some n) ds = some (Nat.ofDigitChars 10 ds n, []) := by
  induction ds generalizing n with
  | nil => rfl
  | cons d ds ih =>
    have ⟨digit, more⟩ := List.cons_subset.mp decimal
    rw [digitsFrom_cons digit, ih more, Nat.ofDigitChars_cons]
    rfl

theorem integer?_toString (n : Nat) : integer? (toString n) = some (n, "") := by
  have written : (toString n).toList = Nat.toDigits 10 n := Nat.toList_repr
  have decimal := Lexer.toDigits_subset n
  have value : digitsFrom 10 none (Nat.toDigits 10 n) = some (n, []) := by
    have known := Nat.ofDigitChars_ten_toDigits (n := n)
    cases same : Nat.toDigits 10 n with
    | nil => exact absurd same Nat.toDigits_ne_nil
    | cons d ds =>
      rw [same] at decimal known
      have ⟨digit, more⟩ := List.cons_subset.mp decimal
      rw [digitsFrom_cons digit, digitsFrom_eq more, ← known, Nat.ofDigitChars_cons]
      rfl
  have undecided : ∀ c, c ∉ digits → ∀ more, Nat.toDigits 10 n ≠ '0' :: c :: more := by
    intro c undigited more same
    rw [same] at decimal
    exact undigited (decimal (by simp))
  rw [integer?, written]
  split
  next same => exact absurd same (undecided 'x' (by decide) _)
  next same => exact absurd same (undecided 'o' (by decide) _)
  next same => exact absurd same (undecided 'b' (by decide) _)
  next c more _ _ _ same =>
    rw [same] at decimal value
    rw [if_pos (Lexer.isDecimal_of_mem_digits (decimal List.mem_cons_self)), value]
    rfl
  next same => exact absurd same Nat.toDigits_ne_nil

theorem integerDigits?_toString (n : Nat) : integerDigits? (toString n) = some (toString n) := by
  rw [integerDigits?, integer?_toString]
  rfl

end Number

end Companion.Code

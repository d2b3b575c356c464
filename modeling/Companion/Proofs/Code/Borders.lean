import Companion.Proofs.Code.Identifiers

/-! Where tokens end.

A blank, a closing bracket or a semicolon ends words, numbers and operators as the end of the text
does, so that one of them can be put in the place of another.
-/

set_option autoImplicit false

namespace Companion.Code

/-- What a scanner took, in front of more text. -/
def Scanned.before (after : List Char) (s : Scanned) : Scanned := (s.1, s.2 ++ after)

namespace Lexer

open Unicode (isIdentifierStart isIdentifierContinue)

/-! ### Stops -/

def isStop (c : Char) : Bool := isSpace c || [')', ';', '\x7d'].contains c

/-- A text that ends at once or goes on with a stop. -/
def Stops (cs : List Char) : Prop := ∀ c ∈ cs.head?, isStop c = true

theorem stops_nil : Stops [] := nofun

theorem stops_cons {c : Char} (stop : isStop c = true) (cs : List Char) : Stops (c :: cs) := by
  simpa [Stops] using stop

theorem ne_of_isStop {c d : Char} (stop : isStop c = true) (other : isStop d = false) : c ≠ d := by
  rintro rfl
  rw [stop] at other
  cases other

theorem not_isIdentifierContinue_of_isStop {c : Char} (stop : isStop c = true) :
    isIdentifierContinue c = false := by
  rcases Bool.or_eq_true_iff.mp stop with space | closing
  · exact not_isIdentifierContinue_of_isSpace space
  · have known : ∀ c ∈ [')', ';', '\x7d'], isIdentifierContinue c = false :=
      Chars.forall_mem_of_all (by decide)
    exact known c (by simpa using closing)

theorem not_isIdentifierStart_of_isStop {c : Char} (stop : isStop c = true) :
    isIdentifierStart c = false := by
  cases start : isIdentifierStart c with
  | false => rfl
  | true =>
    have continues := Unicode.isIdentifierContinue_of_isIdentifierStart start
    rw [not_isIdentifierContinue_of_isStop stop] at continues
    cases continues

theorem not_isDecimal_of_isStop {c : Char} (stop : isStop c = true) : isDecimal c = false := by
  cases decimal : isDecimal c with
  | false => rfl
  | true =>
    have known : ∀ c ∈ digits, isStop c = false := Chars.forall_mem_of_all (by decide)
    exact absurd rfl (ne_of_isStop stop (known c (mem_digits_of_isDecimal decimal)))

theorem hexValue?_of_isStop {c : Char} (stop : isStop c = true) : hexValue? c = none := by
  have known : ∀ n ∈ List.range' 48 10 ++ (List.range' 97 6 ++ List.range' 65 6),
      isStop (Char.ofNat n) = false := by decide
  have other (inside : c.toNat ∈ List.range' 48 10 ++ (List.range' 97 6 ++ List.range' 65 6)) :
      False := by
    have unstopped := known _ inside
    rw [Char.ofNat_toNat, stop] at unstopped
    cases unstopped
  simp only [List.mem_append, List.mem_range'_1] at other
  unfold hexValue?
  split
  next decimal =>
    exact (other (.inl ⟨decimal.1, Nat.lt_succ_of_le decimal.2⟩)).elim
  · split
    next small =>
      exact (other (.inr (.inl ⟨small.1, Nat.lt_succ_of_le small.2⟩))).elim
    · split
      next large =>
        exact (other (.inr (.inr ⟨large.1, Nat.lt_succ_of_le large.2⟩))).elim
      · rfl

/-- A scanner that no stop is anything else to than the end of the text. -/
def Bounded (scan : List Char → Option Scanned) : Prop :=
  ∀ cs after, Stops after → scan (cs ++ after) = (scan cs).map (Scanned.before after)

section

variable {cs after left taken : List Char}

theorem Stops.head?_ne {d : Char} (ends : Stops after) (other : isStop d = false) :
    after.head? ≠ some d := fun first => ne_of_isStop (ends d first) other rfl

theorem Stops.head?_append {d : Char} (ends : Stops after) (other : isStop d = false) :
    (cs ++ after).head? = some d ↔ cs.head? = some d := by
  cases cs with
  | nil => simpa using ends.head?_ne other
  | cons c cs => simp

theorem Stops.continues (ends : Stops after) :
    ∀ c ∈ after.head?, isIdentifierContinue c = false :=
  fun c first => not_isIdentifierContinue_of_isStop (ends c first)

theorem Stops.digits (ends : Stops after) : ∀ c ∈ after.head?, isDecimalOrBreak c = false := by
  intro c first
  have mark : c ≠ '_' := ne_of_isStop (ends c first) (by decide)
  simp [isDecimalOrBreak, not_isDecimal_of_isStop (ends c first), mark]

theorem takeWhile_append_of_head? {p : Char → Bool} (cs : List Char)
    (ends : ∀ c ∈ after.head?, p c = false) :
    (cs ++ after).takeWhile p = cs.takeWhile p ∧
      (cs ++ after).dropWhile p = cs.dropWhile p ++ after := by
  induction cs with
  | nil =>
    cases after with
    | nil => exact ⟨rfl, rfl⟩
    | cons c after => simp [ends c rfl]
  | cons c cs ih => cases known : p c <;> simp [known, ih]

/-! ### Words -/

theorem bounded_word? : Bounded word? := by
  intro cs after ends
  cases cs with
  | nil =>
    cases after with
    | nil => rfl
    | cons c after =>
      have start : isIdentifierStart c = false := not_isIdentifierStart_of_isStop (ends c rfl)
      simp [word?, start]
  | cons c cs =>
    obtain ⟨took, dropped⟩ := takeWhile_append_of_head? cs ends.continues
    cases start : isIdentifierStart c <;> simp [word?, start, took, dropped, Scanned.before]

theorem anyIdent?_of_plain (plain : ∀ rest, cs ≠ 'r' :: '#' :: rest) : anyIdent? cs = word? cs := by
  unfold anyIdent?
  split
  next rest => exact absurd rfl (plain rest)
  next => rfl

theorem bounded_anyIdent? : Bounded anyIdent? := by
  intro cs after ends
  by_cases raw : ∃ rest, cs = 'r' :: '#' :: rest
  · obtain ⟨rest, rfl⟩ := raw
    simp only [List.cons_append, anyIdent?, bounded_word? rest after ends]
    cases word? rest with
    | none => rfl
    | some s =>
      by_cases never : s.1 ∈ neverRaw <;> simp [Scanned.before, never]
  · rw [not_exists] at raw
    have plain : ∀ rest, cs ++ after ≠ 'r' :: '#' :: rest := by
      intro rest same
      rcases cs with - | ⟨c, - | ⟨d, cs⟩⟩
      · exact ends.head?_ne (by decide) (congrArg List.head? same)
      · have next : after.head? = some '#' := by
          rw [List.cons_append, List.cons.injEq] at same
          exact congrArg List.head? same.2
        exact ends.head?_ne (by decide) next
      · simp only [List.cons_append, List.cons.injEq] at same
        exact raw cs (by rw [same.1, same.2.1])
    rw [anyIdent?_of_plain raw, anyIdent?_of_plain plain, bounded_word? cs after ends]

theorem withSuffix_before (s : Scanned) (ends : Stops after) :
    withSuffix (s.before after) = (withSuffix s).before after := by
  unfold withSuffix
  simp only [Scanned.before, bounded_word? s.2 after ends]
  cases word? s.2 <;> rfl

/-! ### Numbers -/

theorem bounded_exponent (sign digit : Bool) : Bounded (exponent sign digit) := by
  intro cs after ends
  induction cs generalizing sign digit with
  | nil =>
    cases after with
    | nil => cases digit <;> rfl
    | cons c after =>
      have other {d : Char} (other : isStop d = false) : c ≠ d := ne_of_isStop (ends c rfl) other
      have decimal := not_isDecimal_of_isStop (ends c rfl)
      cases digit <;> simp [exponent, @other '+' (by decide), @other '-' (by decide), decimal,
        @other '_' (by decide), Scanned.before]
  | cons c cs ih =>
    simp only [List.cons_append, exponent]
    split
    · split
      · rfl
      · rw [ih, Option.map_map, Option.map_map]
        rfl
    · split
      · rw [ih, Option.map_map, Option.map_map]
        rfl
      · split
        · rw [ih, Option.map_map, Option.map_map]
          rfl
        · split <;> rfl

theorem bounded_baseDigits (base : Nat) (empty : Bool) : Bounded (baseDigits base empty) := by
  intro cs after ends
  induction cs generalizing empty with
  | nil =>
    cases after with
    | nil => cases empty <;> rfl
    | cons c after =>
      have mark : c ≠ '_' := ne_of_isStop (ends c rfl) (by decide)
      have digit := hexValue?_of_isStop (ends c rfl)
      cases empty <;> simp [baseDigits, mark, digit, Scanned.before]
  | cons c cs ih =>
    simp only [List.cons_append, baseDigits]
    split
    · split
      · rfl
      · rw [ih, Option.map_map, Option.map_map]
        rfl
    · split
      · split
        · rw [ih, Option.map_map, Option.map_map]
          rfl
        · split
          · rfl
          · split <;> rfl
      · split <;> rfl

theorem bounded_intDigits : Bounded intDigits := by
  intro cs after ends
  by_cases based : ∃ d rest, cs = '0' :: d :: rest ∧ d ∈ ['x', 'o', 'b']
  · obtain ⟨d, rest, rfl, listed⟩ := based
    simp only [List.mem_cons, List.not_mem_nil, or_false] at listed
    rcases listed with rfl | rfl | rfl <;>
      simp [intDigits, bounded_baseDigits _ _ rest after ends, Function.comp_def, Scanned.prepend,
        Scanned.before]
  · have plain (ds : List Char)
        (other : ∀ d rest, ds = '0' :: d :: rest → d ∉ ['x', 'o', 'b']) :
        intDigits ds = baseDigits 10 true ds := by
      unfold intDigits
      split
      next rest => exact absurd (by simp) (other 'x' rest rfl)
      next rest => exact absurd (by simp) (other 'o' rest rfl)
      next rest => exact absurd (by simp) (other 'b' rest rfl)
      next => rfl
    rw [plain cs fun d rest same listed => based ⟨d, rest, same, listed⟩,
      plain (cs ++ after), bounded_baseDigits 10 true cs after ends]
    intro d rest same listed
    rcases cs with - | ⟨c, - | ⟨e, cs⟩⟩
    · exact ends.head?_ne (by decide) (congrArg List.head? same)
    · have next : after.head? = some d := by
        rw [List.cons_append, List.cons.injEq] at same
        exact congrArg List.head? same.2
      have inner : ∀ d ∈ ['x', 'o', 'b'], isStop d = false := Chars.forall_mem_of_all (by decide)
      exact ends.head?_ne (inner d listed) next
    · simp only [List.cons_append, List.cons.injEq] at same
      exact based ⟨d, cs, by rw [same.1, same.2.1], listed⟩

theorem fraction_append (cs : List Char) (ends : Stops after) :
    fraction (cs ++ after) = (fraction cs).map (Option.map (Scanned.before after)) := by
  by_cases pointed : cs.head? = some '.'
  · obtain ⟨rest, rfl⟩ : ∃ rest, cs = '.' :: rest := by
      cases cs with
      | nil => cases pointed
      | cons c rest => exact ⟨rest, by rw [Option.some.inj pointed]⟩
    obtain ⟨took, dropped⟩ := takeWhile_append_of_head? rest ends.digits
    cases rest with
    | nil =>
      cases after with
      | nil => rfl
      | cons c after =>
        have point : c ≠ '.' := ne_of_isStop (ends c rfl) (by decide)
        have start := not_isIdentifierStart_of_isStop (ends c rfl)
        have digit := ends.digits c rfl
        simp [fraction, point, start, digit, Scanned.before]
    | cons c rest =>
      rw [List.cons_append] at took dropped
      by_cases other : c = '.' ∨ isIdentifierStart c
      · simp [fraction, other]
      · simp [fraction, other, took, dropped, Scanned.before]
  · have plain (ds : List Char) (other : ds.head? ≠ some '.') : fraction ds = some none := by
      unfold fraction
      split
      next => exact absurd rfl other
      next => rfl
    rw [plain cs pointed, plain]
    · rfl
    · rwa [Ne, ends.head?_append (by decide)]

theorem bounded_floatDigits : Bounded floatDigits := by
  intro cs after ends
  obtain ⟨took, dropped⟩ := takeWhile_append_of_head? cs ends.digits
  simp only [floatDigits, took, dropped, fraction_append _ ends]
  generalize cs.takeWhile isDecimalOrBreak = whole
  generalize cs.dropWhile isDecimalOrBreak = rest
  have known {c : Char} (stop : isStop c = true) : c ≠ 'e' ∧ c ≠ 'E' :=
    ⟨ne_of_isStop stop (by decide), ne_of_isStop stop (by decide)⟩
  rcases fraction rest with - | - | ⟨point, rest⟩
  · rfl
  · rcases rest with - | ⟨e, rest⟩
    · cases after with
      | nil => rfl
      | cons c after => simp [known (ends c rfl)]
    · simp only [Option.map_some, Option.map_none, List.cons_append]
      split
      · rw [bounded_exponent false false rest after ends, Option.map_map, Option.map_map]
        rfl
      · rfl
  · simp only [Option.map_some, Scanned.before]
    rcases rest with - | ⟨e, rest⟩
    · cases after with
      | nil => rfl
      | cons c after => simp [known (ends c rfl), Scanned.before]
    · simp only [List.cons_append]
      split
      · rw [bounded_exponent false false rest after ends]
        cases exponent false false rest <;> rfl
      · rfl

theorem endNumber_before (s : Scanned) (ends : Stops after) :
    endNumber (s.before after) = (endNumber s).map (Scanned.before after) := by
  unfold endNumber
  rw [withSuffix_before s ends]
  rcases withSuffix s with ⟨taken, - | ⟨c, rest⟩⟩
  · cases after with
    | nil => rfl
    | cons c after => simp [Scanned.before, ends.continues c rfl]
  · cases goesOn : isIdentifierContinue c <;> simp [Scanned.before, goesOn]

theorem bounded_number? : Bounded number? := by
  intro cs after ends
  cases cs with
  | nil =>
    cases after with
    | nil => rfl
    | cons c after => simp [number?, not_isDecimal_of_isStop (ends c rfl)]
  | cons c cs =>
    have ended (found : Option Scanned) : (found.map (Scanned.before after)).bind endNumber =
        (found.bind endNumber).map (Scanned.before after) := by
      cases found with
      | none => rfl
      | some s => exact endNumber_before s ends
    have float := bounded_floatDigits (c :: cs) after ends
    have int := bounded_intDigits (c :: cs) after ends
    rw [List.cons_append] at float int
    simp only [List.cons_append, number?, float, int, ended]
    split
    · cases (floatDigits (c :: cs)).bind endNumber <;> rfl
    · rfl

/-! ### What words and numbers take -/

/-- A scanner that takes a part off the front of a text. -/
def Splits (scan : List Char → Option Scanned) : Prop :=
  ∀ cs taken left, scan cs = some (taken, left) → cs = taken ++ left

theorem splits_word? : Splits word? := fun _ _ _ found => (append_of_word? found).1

theorem splits_ident? : Splits ident? := by
  intro cs taken left found
  unfold ident? at found
  split at found
  · cases found
  · exact (append_of_anyIdent? found).1

theorem withSuffix_split (s : Scanned) : (withSuffix s).1 ++ (withSuffix s).2 = s.1 ++ s.2 := by
  unfold withSuffix
  split
  next suffix rest found => rw [List.append_assoc, ← splits_word? _ _ _ found]
  next => rfl

theorem splits_exponent (sign digit : Bool) : Splits (exponent sign digit) := by
  intro cs taken left found
  induction cs generalizing sign digit taken with
  | nil =>
    rw [exponent, Option.ite_none_right_eq_some] at found
    cases found.2
    rfl
  | cons c cs ih =>
    have later {sign digit : Bool}
        (found : (exponent sign digit cs).map (Scanned.cons c) = some (taken, left)) :
        c :: cs = taken ++ left := by
      obtain ⟨s, scanned, same⟩ := Option.map_eq_some_iff.mp found
      cases same
      rw [ih _ _ _ scanned]
      rfl
    rw [exponent] at found
    split at found
    · split at found
      · cases found
      · exact later found
    · split at found
      · exact later found
      · split at found
        · exact later found
        · split at found
          · cases found
            rfl
          · cases found

theorem splits_baseDigits (base : Nat) (empty : Bool) : Splits (baseDigits base empty) := by
  intro cs taken left found
  induction cs generalizing empty taken with
  | nil =>
    rw [baseDigits, Option.ite_none_left_eq_some] at found
    cases found.2
    rfl
  | cons c cs ih =>
    have later {empty : Bool}
        (found : (baseDigits base empty cs).map (Scanned.cons c) = some (taken, left)) :
        c :: cs = taken ++ left := by
      obtain ⟨s, scanned, same⟩ := Option.map_eq_some_iff.mp found
      cases same
      rw [ih _ _ scanned]
      rfl
    rw [baseDigits] at found
    split at found
    · split at found
      · cases found
      · exact later found
    · split at found
      · split at found
        · exact later found
        · split at found
          · cases found
          · obtain ⟨-, found⟩ := Option.ite_none_left_eq_some.mp found
            cases found
            rfl
      · obtain ⟨-, found⟩ := Option.ite_none_left_eq_some.mp found
        cases found
        rfl

theorem splits_intDigits : Splits intDigits := by
  intro cs taken left found
  have based {base : Nat} {front rest : List Char}
      (found : (baseDigits base true rest).map (Scanned.prepend front) = some (taken, left)) :
      front ++ rest = taken ++ left := by
    obtain ⟨s, scanned, same⟩ := Option.map_eq_some_iff.mp found
    cases same
    rw [splits_baseDigits _ _ _ _ _ scanned]
    simp
  unfold intDigits at found
  split at found
  · exact based found
  · exact based found
  · exact based found
  · exact splits_baseDigits _ _ _ _ _ found

theorem fraction_split {point rest : List Char} (found : fraction cs = some (some (point, rest))) :
    cs = point ++ rest := by
  unfold fraction at found
  split at found
  · split at found
    · split at found
      · cases found
      · cases found
        simp
    · cases found
      rfl
  · cases found

theorem splits_floatDigits : Splits floatDigits := by
  intro cs taken left found
  have whole : cs.takeWhile isDecimalOrBreak ++ cs.dropWhile isDecimalOrBreak = cs :=
    List.takeWhile_append_dropWhile
  have exponented {front after : List Char} {e : Char}
      (found : (exponent false false after).map (Scanned.prepend (front ++ [e])) =
        some (taken, left)) : front ++ e :: after = taken ++ left := by
    obtain ⟨s, scanned, same⟩ := Option.map_eq_some_iff.mp found
    cases same
    rw [splits_exponent _ _ _ _ _ scanned]
    simp
  rw [← whole]
  simp only [floatDigits] at found
  split at found
  · cases found
  next point rest fractional =>
    rw [fraction_split fractional, ← List.append_assoc]
    split at found
    next e after =>
      split at found
      · split at found
        next more behind scanned =>
          cases found
          rw [splits_exponent _ _ _ _ _ scanned]
          simp
        next =>
          cases found
          rfl
      · cases found
        rfl
    · cases found
      rfl
  · split at found
    next e after tail =>
      split at found
      · rw [tail]
        exact exponented found
      · cases found
    · cases found

theorem endNumber_eq_some {s : Scanned} (ended : endNumber s = some (taken, left)) :
    withSuffix s = (taken, left) := by
  unfold endNumber at ended
  generalize withSuffix s = suffixed at ended ⊢
  rcases suffixed with ⟨taken', - | ⟨c, rest⟩⟩
  · exact Option.some.inj ended
  · exact Option.some.inj (Option.ite_none_left_eq_some.mp ended).2

theorem splits_number? : Splits number? := by
  intro cs taken left found
  have ended {scan : List Char → Option Scanned} (splits : Splits scan)
      (found : (scan cs).bind endNumber = some (taken, left)) : cs = taken ++ left := by
    obtain ⟨s, scanned, ended⟩ := Option.bind_eq_some_iff.mp found
    have split := withSuffix_split s
    rw [endNumber_eq_some ended] at split
    rw [splits cs _ _ scanned]
    exact split.symm
  unfold number? at found
  split at found
  · split at found
    · split at found
      next float =>
        cases found
        exact ended splits_floatDigits float
      · exact ended splits_intDigits found
    · cases found
  · cases found

/-! ### Operators -/

theorem mark?_append (written : cs ≠ []) (ends : Stops after) :
    mark? (cs ++ after) = (mark? cs).map fun (c, rest) => (c, rest ++ after) := by
  obtain ⟨c, rest, rfl⟩ := List.exists_cons_of_ne_nil written
  simp only [List.cons_append, mark?, ends.head?_append (by decide : isStop '/' = false),
    ends.head?_append (by decide : isStop '*' = false)]
  split
  · rfl
  · split <;> rfl

theorem isPrefixOf_append {pattern : List Char} (other : ∀ c ∈ after.head?, c ∉ pattern) :
    pattern.isPrefixOf (cs ++ after) = pattern.isPrefixOf cs := by
  induction pattern generalizing cs with
  | nil => simp [List.isPrefixOf]
  | cons c pattern ih =>
    cases cs with
    | nil =>
      cases after with
      | nil => rfl
      | cons d after =>
        have mismatch : c ≠ d := fun same => other d rfl (same ▸ List.mem_cons_self)
        simp [List.isPrefixOf, mismatch]
    | cons d cs =>
      have others : ∀ c ∈ after.head?, c ∉ pattern := fun c first member =>
        other c first (List.mem_cons_of_mem _ member)
      simp [List.isPrefixOf, ih others]

theorem Stops.not_mem {pattern : List Char} (ends : Stops after)
    (inner : ∀ c ∈ pattern, isStop c = false) : ∀ c ∈ after.head?, c ∉ pattern :=
  fun c first member => ne_of_isStop (ends c first) (inner c member) rfl

theorem bounded_ident? : Bounded ident? := by
  intro cs after ends
  have inner : ∀ opening ∈ literalOpenings, ∀ c ∈ opening, isStop c = false := by
    simp [literalOpenings, isStop, isSpace, Chars.isBlank]
  have same : literalOpenings.any (·.isPrefixOf (cs ++ after)) =
      literalOpenings.any (·.isPrefixOf cs) := by
    rw [Bool.eq_iff_iff, List.any_eq_true, List.any_eq_true]
    exact exists_congr fun opening => and_congr_right fun listed => by
      rw [isPrefixOf_append (ends.not_mem (inner opening listed))]
  unfold ident?
  rw [same, bounded_anyIdent? cs after ends]
  split <;> rfl

/-- A mark is joined to a mark that follows it at once. -/
def rejoin (left after : List Char) : Token → Token
  | .punct c joint => .punct c (if left = [] then (mark? after).isSome else joint)
  | token => token

theorem punct?_of_mark {c : Char} {rest : List Char} (marked : mark? cs = some (c, rest))
    (other : c ≠ '\'') : punct? cs = some (.punct c (mark? rest).isSome, rest) := by
  unfold punct?
  rw [marked]
  split
  next none => cases none
  next same =>
    cases same
    exact absurd rfl other
  next same =>
    cases same
    rfl

/-- A quote opens a lifetime if a name follows that no quote closes. -/
theorem punct?_of_quote {rest : List Char} (marked : mark? cs = some ('\'', rest)) :
    punct? cs = (anyIdent? rest).bind fun (_, after) =>
      if after.head? = some '\'' ∨ after.head? = some '#' ∧ ¬['r', '#'].isPrefixOf rest then none
      else some (.punct '\'' true, rest) := by
  unfold punct?
  rw [marked]
  simp only
  cases anyIdent? rest with
  | none => rfl
  | some s =>
    simp only [Option.bind_some]
    split
    next closed => simp [closed]
    next hash =>
      by_cases raw : ['r', '#'].isPrefixOf rest = true <;> simp [hash, raw]
    next closed hash =>
      rw [if_neg (by rintro (same | ⟨same, -⟩); exacts [closed same, hash same])]

theorem punct?_append (written : cs ≠ []) (ends : Stops after) :
    punct? (cs ++ after) =
      (punct? cs).map fun (token, rest) => (rejoin rest after token, rest ++ after) := by
  have appended := mark?_append written ends
  cases marked : mark? cs with
  | none =>
    rw [marked] at appended
    simp [punct?, marked, appended]
  | some s =>
    obtain ⟨c, left⟩ := s
    rw [marked, Option.map_some] at appended
    by_cases quote : c = '\''
    · subst quote
      have inner : ∀ c ∈ ['r', '#'], isStop c = false := Chars.forall_mem_of_all (by decide)
      rw [punct?_of_quote marked, punct?_of_quote appended, bounded_anyIdent? left after ends]
      cases named : anyIdent? left with
      | none => rfl
      | some s =>
        have nonempty : left ≠ [] := by
          rintro rfl
          cases named
        simp only [Option.map_some, Option.bind_some, Scanned.before,
          ends.head?_append (by decide : isStop '\'' = false),
          ends.head?_append (by decide : isStop '#' = false),
          isPrefixOf_append (ends.not_mem inner)]
        split
        · rfl
        · simp [rejoin, nonempty]
    · rw [punct?_of_mark marked quote, punct?_of_mark appended quote]
      by_cases last : left = []
      · simp [last, rejoin]
      · simp [mark?_append last ends, last, rejoin]

theorem rejoin_of_unmarked {token : Token} (unmarked : mark? after = none)
    (found : punct? cs = some (token, left)) : rejoin left after token = token := by
  cases marked : mark? cs with
  | none => simp [punct?, marked] at found
  | some s =>
    obtain ⟨c, rest⟩ := s
    by_cases quote : c = '\''
    · subst quote
      rw [punct?_of_quote marked, Option.bind_eq_some_iff] at found
      obtain ⟨s, named, found⟩ := found
      have nonempty : rest ≠ [] := by
        rintro rfl
        cases named
      obtain ⟨-, found⟩ := Option.ite_none_left_eq_some.mp found
      cases found
      simp [rejoin, nonempty]
    · rw [punct?_of_mark marked quote] at found
      cases found
      by_cases last : left = []
      · simp [rejoin, last, unmarked, mark?.eq_1]
      · simp [rejoin, last]

end

end Lexer

end Companion.Code

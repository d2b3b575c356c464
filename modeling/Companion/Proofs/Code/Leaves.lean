import Companion.Proofs.Code.Closures

/-! What a step reads.

A text begins with a leaf of one kind at most, whatever comes behind it, and every step takes a
part off the front of a text.
-/

set_option autoImplicit false

namespace Companion.Code.Lexer

open Unicode (isIdentifierStart isIdentifierContinue)

section

variable {cs rest : List Char} {s : Scanned} {token : Token} {tokens : List Token}

/-! ### What leaves begin with -/

/-- Whether a literal that no identifier begins like opens the text. -/
def opensLiteral (cs : List Char) : Bool := literalOpenings.any (·.isPrefixOf cs)

/-- A quoted literal begins with its quote, or as no identifier does. -/
theorem opens_of_quoted? (found : quoted? cs = some s) :
    cs.head? = some '"' ∨ opensLiteral cs = true := by
  unfold quoted? at found
  split at found
  next => exact .inl rfl
  next rest =>
    obtain ⟨s, raw, -⟩ := Option.map_eq_some_iff.mp found
    obtain ⟨n, rest, rfl⟩ := exists_hashes raw
    rcases n with - | - | n <;> exact .inr rfl
  next rest => exact .inr rfl
  next rest =>
    obtain ⟨s, raw, -⟩ := Option.map_eq_some_iff.mp found
    obtain ⟨n, rest, rfl⟩ := exists_hashes raw
    rcases n with - | n <;> exact .inr rfl
  next rest => exact .inr rfl
  next rest =>
    obtain ⟨s, raw, -⟩ := Option.map_eq_some_iff.mp found
    obtain ⟨n, rest, rfl⟩ := exists_hashes raw
    rcases n with - | n <;> exact .inr rfl
  next => cases found

theorem opens_of_character? (found : character? cs = some s) :
    cs.head? = some '\'' ∨ opensLiteral cs = true := by
  unfold character? at found
  split at found
  next => exact .inr rfl
  next => exact .inl rfl
  next => cases found

theorem opens_of_number? (found : number? cs = some s) : ∃ c ∈ cs.head?, isDecimal c = true := by
  unfold number? at found
  split at found
  next c rest =>
    split at found
    next decimal => exact ⟨c, rfl, decimal⟩
    next => cases found
  next => cases found

theorem opens_of_mark? {c : Char} (marked : mark? cs = some (c, rest)) :
    cs = c :: rest ∧ c ∈ marks := by
  unfold mark? at marked
  split at marked
  next => cases marked
  next d more =>
    split at marked
    · cases marked
    · split at marked
      next listed =>
        cases marked
        exact ⟨rfl, List.contains_iff_mem.mp listed⟩
      next => cases marked

theorem opens_of_punct? (found : punct? cs = some (token, rest)) :
    ∃ c, mark? cs = some (c, rest) ∧ cs = c :: rest ∧ c ∈ marks := by
  cases marked : mark? cs with
  | none => simp [punct?, marked] at found
  | some s =>
    obtain ⟨c, left⟩ := s
    obtain ⟨split, listed⟩ := opens_of_mark? marked
    by_cases quote : c = '\''
    · subst quote
      rw [punct?_of_quote marked, Option.bind_eq_some_iff] at found
      obtain ⟨_, _, found⟩ := found
      obtain ⟨-, found⟩ := Option.ite_none_left_eq_some.mp found
      cases found
      exact ⟨_, rfl, split, listed⟩
    · rw [punct?_of_mark marked quote] at found
      cases found
      exact ⟨c, rfl, split, listed⟩

theorem opens_of_word? (found : word? cs = some s) :
    ∃ c ∈ cs.head?, isIdentifierStart c = true := by
  unfold word? at found
  split at found
  next => cases found
  next c rest =>
    split at found
    next start => exact ⟨c, rfl, start⟩
    next => cases found

theorem opens_of_anyIdent? (found : anyIdent? cs = some s) :
    ∃ c ∈ cs.head?, isIdentifierStart c = true := by
  unfold anyIdent? at found
  split at found
  next => exact ⟨'r', rfl, by decide⟩
  next => exact opens_of_word? found

theorem opens_of_ident? (found : ident? cs = some s) :
    opensLiteral cs = false ∧ ∃ c ∈ cs.head?, isIdentifierStart c = true := by
  obtain ⟨unopened, named⟩ := Option.ite_none_left_eq_some.mp found
  exact ⟨by simpa [opensLiteral] using unopened, opens_of_anyIdent? named⟩

/-! ### One kind of leaf at most -/

/-- What quoted literals do not begin with. -/
theorem quoted?_eq_none (unquoted : cs.head? ≠ some '"') (unopened : opensLiteral cs = false) :
    quoted? cs = none := by
  by_contra found
  obtain ⟨s, found⟩ := Option.ne_none_iff_exists'.mp found
  rcases opens_of_quoted? found with quote | opened
  · exact unquoted quote
  · rw [unopened] at opened
    cases opened

theorem character?_eq_none (unquoted : cs.head? ≠ some '\'') (unopened : opensLiteral cs = false) :
    character? cs = none := by
  by_contra found
  obtain ⟨s, found⟩ := Option.ne_none_iff_exists'.mp found
  rcases opens_of_character? found with quote | opened
  · exact unquoted quote
  · rw [unopened] at opened
    cases opened

theorem number?_eq_none {c : Char} (other : isDecimal c = false) (cs : List Char) :
    number? (c :: cs) = none := by
  simp [number?, other]

theorem opensLiteral_eq_false {c : Char} (other : c ∉ ['r', 'b', 'c']) (cs : List Char) :
    opensLiteral (c :: cs) = false := by
  simp only [List.mem_cons, List.not_mem_nil, or_false, not_or] at other
  obtain ⟨r, b, c⟩ := other
  simp [opensLiteral, literalOpenings, List.isPrefixOf, Ne.symm r, Ne.symm b, Ne.symm c]

theorem literal?_of_ident? (found : ident? cs = some s) : literal? cs = none := by
  obtain ⟨unopened, c, first, start⟩ := opens_of_ident? found
  obtain ⟨rest, rfl⟩ := List.head?_eq_some_iff.mp first
  have quote : c ≠ '"' := ne_of_isIdentifierStart start (by decide)
  have single : c ≠ '\'' := ne_of_isIdentifierStart start (by decide)
  rw [literal?, quoted?_eq_none (by simpa using quote) unopened,
    character?_eq_none (by simpa using single) unopened,
    number?_eq_none (isDecimal_of_isIdentifierStart start)]

theorem punct?_of_ident? (found : ident? cs = some s) : punct? cs = none := by
  obtain ⟨-, c, first, start⟩ := opens_of_ident? found
  obtain ⟨rest, rfl⟩ := List.head?_eq_some_iff.mp first
  rw [punct?, mark?_of_isIdentifierStart start]

/-- A name behind a quote is no character between quotes if it opens a lifetime. -/
theorem character?_of_punct? (found : punct? cs = some (token, rest)) : character? cs = none := by
  obtain ⟨c, marked, rfl, listed⟩ := opens_of_punct? found
  by_cases quote : c = '\''
  · subst quote
    rw [punct?_of_quote marked, Option.bind_eq_some_iff] at found
    obtain ⟨⟨name, behind⟩, named, found⟩ := found
    obtain ⟨unclosed, -⟩ := Option.ite_none_left_eq_some.mp found
    obtain ⟨c, first, start⟩ := opens_of_anyIdent? named
    obtain ⟨more, rfl⟩ := List.head?_eq_some_iff.mp first
    have plain : c ≠ '\\' := ne_of_isIdentifierStart start (by decide)
    have open' : more.head? ≠ some '\'' := by
      intro closed
      obtain ⟨more, rfl⟩ := List.head?_eq_some_iff.mp closed
      rw [anyIdent?_of_plain (by simp), word?, if_pos start] at named
      cases named
      exact unclosed (.inl rfl)
    have unshut : closeQuote ([c], more) = none := by
      unfold closeQuote
      split
      next same =>
        cases same
        exact absurd rfl open'
      next => rfl
    simp [character?, quotedChar?_plain plain, unshut]
  · have known : ∀ c ∈ marks, c ∉ ['r', 'b', 'c'] := Chars.forall_mem_of_all (by decide +kernel)
    exact character?_eq_none (by simpa using quote) (opensLiteral_eq_false (known c listed) rest)

theorem literal?_of_punct? (found : punct? cs = some (token, rest)) : literal? cs = none := by
  have character := character?_of_punct? found
  obtain ⟨c, -, rfl, listed⟩ := opens_of_punct? found
  have known : ∀ c ∈ marks, c ≠ '"' ∧ c ∉ ['r', 'b', 'c'] ∧ isDecimal c = false :=
    Chars.forall_mem_of_all (by decide +kernel)
  obtain ⟨quote, letter, decimal⟩ := known c listed
  rw [literal?, quoted?_eq_none (by simpa using quote) (opensLiteral_eq_false letter rest),
    character, number?_eq_none decimal]

theorem quoted?_of_character? (found : character? cs = some s) : quoted? cs = none := by
  unfold character? at found
  split at found
  next => rfl
  next => rfl
  next => cases found

/-- What a text begins with that is no blank, comment or bracket. -/
inductive Leaf (cs : List Char) : Token → List Char → Prop
  | string {s : Scanned} (found : quoted? cs = some s) :
      Leaf cs (.literal (String.ofList (withSuffix s).1)) (withSuffix s).2
  | character {s : Scanned} (found : character? cs = some s) :
      Leaf cs (.literal (String.ofList (withSuffix s).1)) (withSuffix s).2
  | number {taken left : List Char} (found : number? cs = some (taken, left)) :
      Leaf cs (.literal (String.ofList taken)) left
  | mark {token : Token} {left : List Char} (found : punct? cs = some (token, left)) :
      Leaf cs token left
  | name {taken left : List Char} (found : ident? cs = some (taken, left)) :
      Leaf cs (.ident (String.ofList taken)) left

theorem leaf?_iff : leaf? cs = some (token, rest) ↔ Leaf cs token rest := by
  constructor
  · intro found
    unfold leaf? literal? at found
    cases quoted : quoted? cs with
    | some s =>
      rw [quoted] at found
      cases found
      exact .string quoted
    | none =>
      cases character : character? cs with
      | some s =>
        rw [quoted, character] at found
        cases found
        exact .character character
      | none =>
        cases number : number? cs with
        | some s =>
          rw [quoted, character, number] at found
          cases found
          exact .number number
        | none =>
          rw [quoted, character, number] at found
          cases punct : punct? cs with
          | some s =>
            rw [punct] at found
            cases found
            exact .mark punct
          | none =>
            rw [punct] at found
            obtain ⟨s, named, same⟩ := Option.map_eq_some_iff.mp found
            cases same
            exact .name named
  · intro leaf
    cases leaf with
    | string found => rw [leaf?, literal?, found]
    | character found => rw [leaf?, literal?, quoted?_of_character? found, found]
    | number found =>
      obtain ⟨c, first, decimal⟩ := opens_of_number? found
      obtain ⟨more, rfl⟩ := List.head?_eq_some_iff.mp first
      have known : ∀ c ∈ digits, c ≠ '"' ∧ c ≠ '\'' ∧ c ∉ ['r', 'b', 'c'] :=
        Chars.forall_mem_of_all (by decide)
      obtain ⟨quote, single, letter⟩ := known c (mem_digits_of_isDecimal decimal)
      have unopened := opensLiteral_eq_false letter more
      rw [leaf?, literal?, quoted?_eq_none (by simpa using quote) unopened,
        character?_eq_none (by simpa using single) unopened, found]
    | mark found => rw [leaf?, literal?_of_punct? found, found]
    | name found =>
      rw [leaf?, literal?_of_ident? found, punct?_of_ident? found, found]
      rfl

/-! ### Steps -/

theorem uncommented (cs : List Char)
    (plain : cs.head? = some '/' → cs.tail.head? ≠ some '/' ∧ cs.tail.head? ≠ some '*') :
    plainComment? cs = none ∧ docComment? cs = none := by
  constructor
  · unfold plainComment?
    split <;> simp_all
  · unfold docComment?
    split <;> simp_all

/-- What a leaf begins with. -/
theorem Leaf.opens (leaf : Leaf cs token rest) :
    ∃ c more, cs = c :: more ∧ (c ∈ ['"', '\'', 'r', 'b', 'c'] ∨ isDecimal c = true ∨ c ∈ marks ∨
      isIdentifierStart c = true) := by
  have literal (opens : opensLiteral cs = true) :
      ∃ c more, cs = c :: more ∧ c ∈ ['"', '\'', 'r', 'b', 'c'] := by
    cases cs with
    | nil => exact absurd opens (by decide)
    | cons c more =>
      refine ⟨c, more, rfl, List.mem_cons_of_mem _ (List.mem_cons_of_mem _ ?_)⟩
      by_contra other
      rw [opensLiteral_eq_false other more] at opens
      cases opens
  cases leaf with
  | string found =>
    rcases opens_of_quoted? found with quote | opens
    · obtain ⟨more, rfl⟩ := List.head?_eq_some_iff.mp quote
      exact ⟨_, more, rfl, .inl (by decide)⟩
    · obtain ⟨c, more, rfl, letter⟩ := literal opens
      exact ⟨c, more, rfl, .inl letter⟩
  | character found =>
    rcases opens_of_character? found with quote | opens
    · obtain ⟨more, rfl⟩ := List.head?_eq_some_iff.mp quote
      exact ⟨_, more, rfl, .inl (by decide)⟩
    · obtain ⟨c, more, rfl, letter⟩ := literal opens
      exact ⟨c, more, rfl, .inl letter⟩
  | number found =>
    obtain ⟨c, first, decimal⟩ := opens_of_number? found
    obtain ⟨more, rfl⟩ := List.head?_eq_some_iff.mp first
    exact ⟨c, more, rfl, .inr (.inl decimal)⟩
  | mark found =>
    obtain ⟨c, -, rfl, listed⟩ := opens_of_punct? found
    exact ⟨c, _, rfl, .inr (.inr (.inl listed))⟩
  | name found =>
    obtain ⟨-, c, first, start⟩ := opens_of_ident? found
    obtain ⟨more, rfl⟩ := List.head?_eq_some_iff.mp first
    exact ⟨c, more, rfl, .inr (.inr (.inr start))⟩

/-- What a leaf begins with is no blank, bracket or comment. -/
theorem Leaf.visible (leaf : Leaf cs token rest) :
    ∃ c more, cs = c :: more ∧ isSpace c = false ∧ bracket? c = none ∧
      (c = '/' → more.head? ≠ some '/' ∧ more.head? ≠ some '*') := by
  have found := leaf?_iff.mpr leaf
  obtain ⟨c, more, rfl, opens⟩ := leaf.opens
  have shown : isSpace c = false ∧ bracket? c = none := by
    have known : ∀ c ∈ ['"', '\'', 'r', 'b', 'c'] ++ digits ++ marks,
        isSpace c = false ∧ bracket? c = none := Chars.forall_mem_of_all (by decide +kernel)
    rcases opens with quote | decimal | listed | start
    · exact known c (List.mem_append_left _ (List.mem_append_left _ quote))
    · exact known c (List.mem_append_left _
        (List.mem_append_right _ (mem_digits_of_isDecimal decimal)))
    · exact known c (List.mem_append_right _ listed)
    · refine ⟨?_, ?_⟩
      · by_contra space
        rw [not_isIdentifierStart_of_isSpace (by simpa using space)] at start
        cases start
      · unfold bracket?
        split <;> first | rfl | cases start
  refine ⟨c, more, rfl, shown.1, shown.2, ?_⟩
  -- A slash is a mark only where it opens no comment.
  rintro rfl
  by_contra commented
  rw [← not_or, not_not] at commented
  rw [leaf?_slash commented] at found
  cases found

/-- What a step reads, and what it leaves. -/
inductive Stepped : List Char → List Token → List Char → Prop
  | blank {c : Char} {rest : List Char} (space : isSpace c = true) : Stepped (c :: rest) [] rest
  | line {body rest : List Char} {tokens : List Token}
      (read : step ('/' :: '/' :: body) = some (tokens, rest)) :
      Stepped ('/' :: '/' :: body) tokens rest
  | block {body rest : List Char} {tokens : List Token}
      (read : step ('/' :: '*' :: body) = some (tokens, rest)) :
      Stepped ('/' :: '*' :: body) tokens rest
  | failed {rest : List Char} :
      Stepped (failedLiteral.toList ++ rest) [.literal failedLiteral] rest
  | bracket {c : Char} {rest : List Char} {token : Token} (found : bracket? c = some token)
      (other : failed? (c :: rest) = none) : Stepped (c :: rest) [token] rest
  | leaf {cs rest : List Char} {token : Token} (found : Leaf cs token rest) :
      Stepped cs [token] rest

theorem step_bracket_of_failed? {c : Char} (found : bracket? c = some token)
    (other : failed? (c :: rest) = none) : step (c :: rest) = some ([token], rest) := by
  have listed : c ∈ ['(', ')', '[', ']', '\x7b', '\x7d'] := by
    unfold bracket? at found
    split at found <;> simp_all
  have known : ∀ c ∈ ['(', ')', '[', ']', '\x7b', '\x7d'], isSpace c = false ∧ c ≠ '/' :=
    Chars.forall_mem_of_all (by decide)
  obtain ⟨visible, slash⟩ := known c listed
  obtain ⟨plain, doc⟩ := uncommented (c :: rest) fun first =>
    absurd (Option.some.inj first) slash
  simp only [step, visible, plain, doc, other, found]
  rfl

theorem step_failed (rest : List Char) :
    step (failedLiteral.toList ++ rest) = some ([.literal failedLiteral], rest) := by
  have opened : failedLiteral.toList = '(' :: '/' :: "*ERROR*/)".toList := by decide
  have found : failed? (failedLiteral.toList ++ rest) = some (.literal failedLiteral, rest) := by
    rw [failed?, List.isPrefixOf?_eq_some_iff_append_eq.mpr rfl]
    rfl
  rw [opened, List.cons_append] at found ⊢
  rw [step, found]
  rfl

theorem Leaf.step (leaf : Leaf cs token rest) : step cs = some ([token], rest) := by
  obtain ⟨c, more, rfl, visible, bracket, unslashed⟩ := leaf.visible
  obtain ⟨plain, doc⟩ := uncommented (c :: more) fun first =>
    unslashed (Option.some.inj first)
  have failed : failed? (c :: more) = none := by
    have opened : failedLiteral.toList = '(' :: "/*ERROR*/)".toList := by decide
    have other : '(' ≠ c := by
      rintro rfl
      cases bracket
    simp [failed?, opened, List.isPrefixOf?, other]
  simp only [Lexer.step, visible, plain, doc, failed, bracket, leaf?_iff.mpr leaf]
  rfl

/-- A step reads a blank, a comment or a token. -/
theorem stepped_iff : step cs = some (tokens, rest) ↔ Stepped cs tokens rest := by
  constructor
  · intro read
    rcases cs with - | ⟨c, more⟩
    · cases read
    by_cases space : isSpace c = true
    · simp only [step, space] at read
      cases read
      exact .blank space
    by_cases slash : c = '/' ∧ (more.head? = some '/' ∨ more.head? = some '*')
    · obtain ⟨rfl, opens | opens⟩ := slash
      · obtain ⟨body, rfl⟩ := List.head?_eq_some_iff.mp opens
        exact .line read
      · obtain ⟨body, rfl⟩ := List.head?_eq_some_iff.mp opens
        exact .block read
    obtain ⟨plain, doc⟩ := uncommented (c :: more) fun first =>
      not_or.mp (not_and.mp slash (Option.some.inj first))
    simp only [step, space, plain, doc] at read
    cases failed : failed? (c :: more) with
    | some s =>
      rw [failed] at read
      cases read
      obtain ⟨left, same, rfl⟩ := Option.map_eq_some_iff.mp failed
      rw [← List.isPrefixOf?_eq_some_iff_append_eq.mp same]
      exact .failed
    | none =>
      rw [failed] at read
      cases bracket : bracket? c with
      | some token =>
        rw [bracket] at read
        cases read
        exact .bracket bracket failed
      | none =>
        rw [bracket] at read
        obtain ⟨⟨token, left⟩, leaf, same⟩ := Option.map_eq_some_iff.mp read
        cases same
        exact .leaf (leaf?_iff.mp leaf)
  · intro stepped
    cases stepped with
    | blank space =>
      simp only [step, space]
      rfl
    | line read => exact read
    | block read => exact read
    | failed => exact step_failed rest
    | bracket found other => exact step_bracket_of_failed? found other
    | leaf found => exact found.step

/-- Nothing that is read begins with a byte order mark. -/
theorem step_of_mark {c : Char} (mark : c.toNat = 0xFEFF) (cs : List Char) :
    step (c :: cs) = none := by
  have start : isIdentifierStart c = false :=
    Unicode.isIdentifierStart_of_unlettered (by rw [mark]; decide)
  have known : ∀ c ∈ [Char.ofNat 0xFEFF], isSpace c = false ∧ bracket? c = none ∧ c ≠ '/' ∧
      c ≠ '(' ∧ c ∉ ['"', '\'', 'r', 'b', 'c'] ∧ isDecimal c = false ∧ c ∉ marks :=
    Chars.forall_mem_of_all (by decide +kernel)
  obtain ⟨visible, bracket, slash, parenthesis, quote, decimal, unmarked⟩ :=
    known c (by rw [List.mem_singleton, ← mark, Char.ofNat_toNat])
  rw [Option.eq_none_iff_forall_not_mem]
  rintro ⟨tokens, rest⟩ front
  generalize whole : c :: cs = ds at front
  cases stepped_iff.mp front with
  | blank space =>
    cases whole
    rw [visible] at space
    cases space
  | line | block => exact slash (List.cons.inj whole).1
  | failed => exact parenthesis (Option.some.inj (congrArg List.head? whole))
  | bracket found =>
    cases whole
    rw [bracket] at found
    cases found
  | leaf found =>
    obtain ⟨d, more, rfl, opens⟩ := found.opens
    cases whole
    simp [start, quote, decimal, unmarked] at opens

end

end Companion.Code.Lexer

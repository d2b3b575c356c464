import Companion.Code.Grammar
import Companion.Proofs.Code.Leaves

/-! What a text consists of, and what it means.

Texts with the same lexemes have the same tokens. They mean the same already if the strings of the
one have the values that the strings of the other have.
-/

set_option autoImplicit false

namespace Companion.Code

open Lexer

/-- A token, or a comment that stands for an attribute because it documents something. -/
inductive Lexeme where
  | token (token : Token)
  | documentation (inner : Bool) (text : List Char)
  deriving DecidableEq, Repr

namespace Lexeme

def tokens : Lexeme → List Token
  | token t => [t]
  | documentation inner text => (DocComment.mk inner text []).tokens

/-- A string means its value, and everything else itself. -/
def meaning : Lexeme → StringValue ⊕ Lexeme
  | token (.literal text) =>
    match stringValue? text.toList with
    | some value => .inl value
    | none => .inr (token (.literal text))
  | lexeme => .inr lexeme

end Lexeme

namespace Lexer

/-- The lexemes at the front of a text, as `step` reads them. -/
def lexemeStep (cs : List Char) : Option (List Lexeme × List Char) :=
  match plainComment? cs, docComment? cs with
  | none, some comment => some ([.documentation comment.inner comment.text], comment.rest)
  | _, _ => (step cs).map fun (tokens, rest) => (tokens.map .token, rest)

def lexemesWithin : Nat → List Char → Option (List Lexeme)
  | _, [] => some []
  | 0, _ :: _ => none
  | fuel + 1, cs =>
    match lexemeStep cs with
    | none => none
    | some (lexemes, rest) => (lexemesWithin fuel rest).map (lexemes ++ ·)

/-- The lexemes of a text; a byte order mark before them is no part of it. -/
def lexemes (cs : List Char) : Option (List Lexeme) :=
  lexemesWithin (withoutMark cs).length (withoutMark cs)

section

variable {cs rest : List Char} {tokens : List Token} {read : List Lexeme}

/-! ### Tokens of lexemes -/

theorem step_of_docComment? {comment : DocComment} (plain : plainComment? cs = none)
    (found : docComment? cs = some comment) :
    step cs = some (comment.tokens, comment.rest) := by
  have opened : ∃ rest, cs = '/' :: rest ∧ (rest.head? = some '/' ∨ rest.head? = some '*') := by
    by_contra other
    simp only [not_exists, not_and, not_or] at other
    have none := (uncommented cs fun first => by
      obtain ⟨rest, rfl⟩ := List.head?_eq_some_iff.mp first
      exact other rest rfl).2
    rw [none] at found
    cases found
  obtain ⟨rest, rfl, opens⟩ := opened
  rw [step_slash opens, plain, found]
  rfl

theorem step_eq_lexemeStep (cs : List Char) :
    step cs = (lexemeStep cs).map fun (read, rest) => (read.flatMap Lexeme.tokens, rest) := by
  unfold lexemeStep
  split
  next comment plain doc =>
    rw [step_of_docComment? plain doc]
    simp [Lexeme.tokens, DocComment.tokens]
  next =>
    rw [Option.map_map]
    have same (tokens : List Token) : (tokens.map Lexeme.token).flatMap Lexeme.tokens = tokens := by
      induction tokens with
      | nil => rfl
      | cons token tokens ih => rw [List.map_cons, List.flatMap_cons, ih]; rfl
    simp [Function.comp_def, same]

theorem step_eq_some_iff {cs rest : List Char} {tokens : List Token} :
    step cs = some (tokens, rest) ↔
      ∃ read, lexemeStep cs = some (read, rest) ∧ read.flatMap Lexeme.tokens = tokens := by
  simp [step_eq_lexemeStep]

theorem tokensWithin_eq (fuel : Nat) (cs : List Char) :
    tokensWithin fuel cs = (lexemesWithin fuel cs).map (·.flatMap Lexeme.tokens) := by
  induction fuel generalizing cs with
  | zero => cases cs <;> rfl
  | succ fuel ih =>
    cases cs with
    | nil => rfl
    | cons c rest =>
      rw [tokensWithin.eq_3 _ _ (by simp), lexemesWithin.eq_3 _ _ (by simp), step_eq_lexemeStep]
      cases lexemeStep (c :: rest) with
      | none => rfl
      | some s => simp [ih, Function.comp_def]

/-- The tokens of a text are those of its lexemes. -/
theorem tokens_eq (cs : List Char) :
    Lexer.tokens cs = (lexemes cs).map (·.flatMap Lexeme.tokens) := by
  rw [lexemes, ← tokensWithin_eq]
  cases cs with
  | nil => rfl
  | cons c rest =>
    rw [Lexer.tokens, withoutMark]
    split <;> rfl

/-! ### Lexemes without a bound on their number -/

/-- The text consists of the lexemes. -/
inductive Reads : List Char → List Lexeme → Prop
  | nil : Reads [] []
  | cons {cs rest : List Char} {first others : List Lexeme}
      (front : lexemeStep cs = some (first, rest)) (more : Reads rest others) :
      Reads cs (first ++ others)

theorem Reads.of_front {first : List Lexeme} (front : lexemeStep cs = some (first, rest)) :
    Reads cs read ↔ ∃ others, read = first ++ others ∧ Reads rest others := by
  constructor
  · intro reads
    cases reads with
    | nil => cases front
    | cons front' more =>
      cases front.symm.trans front'
      exact ⟨_, rfl, more⟩
  · rintro ⟨others, rfl, more⟩
    exact .cons front more

theorem Reads.not_of_front (front : lexemeStep cs = none) (written : cs ≠ []) :
    ¬ Reads cs read := by
  intro reads
  cases reads with
  | nil => exact written rfl
  | cons front' => cases front.symm.trans front'

theorem Reads.unique {read' : List Lexeme} (reads : Reads cs read) (reads' : Reads cs read') :
    read = read' := by
  induction reads generalizing read' with
  | nil =>
    cases reads' with
    | nil => rfl
    | cons front => cases front
  | cons front more ih =>
    obtain ⟨others, rfl, more'⟩ := (Reads.of_front front).mp reads'
    rw [ih more']

/-! ### Every step takes a part of the text -/

theorem baseDigits_ne_nil {base : Nat} {taken left : List Char}
    (found : baseDigits base true cs = some (taken, left)) : taken ≠ [] := by
  rintro rfl
  cases cs with
  | nil => cases found
  | cons c cs =>
    have later (scanned : Option Scanned) :
        scanned.map (Scanned.cons c) ≠ some ([], left) := by
      cases scanned <;> simp [Scanned.cons]
    rw [baseDigits] at found
    split at found
    · split at found
      · cases found
      · exact later _ found
    · split at found
      · split at found
        · exact later _ found
        · split at found <;> cases found
      · cases found

theorem intDigits_ne_nil {taken left : List Char} (found : intDigits cs = some (taken, left)) :
    taken ≠ [] := by
  have based {scanned : Option Scanned} {c : Char} {front : List Char}
      (found : scanned.map (Scanned.prepend (c :: front)) = some (taken, left)) : taken ≠ [] := by
    obtain ⟨s, -, same⟩ := Option.map_eq_some_iff.mp found
    cases same
    simp
  unfold intDigits at found
  split at found
  · exact based found
  · exact based found
  · exact based found
  · exact baseDigits_ne_nil found

theorem floatDigits_ne_nil {c : Char} (decimal : isDecimal c = true) {taken left : List Char}
    (found : floatDigits (c :: cs) = some (taken, left)) : taken ≠ [] := by
  have whole : (c :: cs).takeWhile isDecimalOrBreak ≠ [] := by
    simp [isDecimalOrBreak, decimal]
  simp only [floatDigits] at found
  split at found
  · cases found
  · split at found
    · split at found
      · split at found <;> cases found <;> simp [whole]
      · cases found
        simp [whole]
    · cases found
      simp [whole]
  · split at found
    · split at found
      · obtain ⟨s, -, same⟩ := Option.map_eq_some_iff.mp found
        cases same
        simp
      · cases found
    · cases found

theorem number?_ne_nil {taken left : List Char} (found : number? cs = some (taken, left)) :
    taken ≠ [] := by
  have ended {scanned : Option Scanned} (nonempty : ∀ s ∈ scanned, s.1 ≠ [])
      (found : scanned.bind endNumber = some (taken, left)) : taken ≠ [] := by
    obtain ⟨s, digits, ended⟩ := Option.bind_eq_some_iff.mp found
    have same := endNumber_eq_some ended
    unfold withSuffix at same
    split at same
    · cases same
      simp [nonempty s digits]
    · cases same
      exact nonempty _ digits
  obtain ⟨c, first, decimal⟩ := opens_of_number? found
  obtain ⟨rest, rfl⟩ := List.head?_eq_some_iff.mp first
  simp only [number?, decimal, if_true] at found
  split at found
  next float =>
    cases found
    exact ended (fun s digits => floatDigits_ne_nil decimal digits) float
  next => exact ended (fun s digits => intDigits_ne_nil digits) found

/-- A part of the text that is no part of the rest. -/
def Takes (cs rest : List Char) : Prop := ∃ taken, taken ≠ [] ∧ cs = taken ++ rest

theorem Leaf.takes {token : Token} (leaf : Leaf cs token rest) : Takes cs rest := by
  have suffixed {scan : List Char → Option Scanned} (closed : Closed scan) {s : Scanned}
      (found : scan cs = some s) : Takes cs (withSuffix s).2 := by
    obtain ⟨nonempty, split, -⟩ := closed cs s.1 s.2 found
    refine ⟨(withSuffix s).1, ?_, ?_⟩
    · unfold withSuffix
      split <;> simp [nonempty]
    · rw [withSuffix_split, ← split]
  cases leaf with
  | string found => exact suffixed closed_quoted? found
  | character found => exact suffixed closed_character? found
  | number found => exact ⟨_, number?_ne_nil found, splits_number? _ _ _ found⟩
  | mark found =>
    obtain ⟨c, -, split, -⟩ := opens_of_punct? found
    exact ⟨[c], by simp, split⟩
  | name found =>
    obtain ⟨-, named⟩ := Option.ite_none_left_eq_some.mp found
    obtain ⟨c, more, rfl, -⟩ := (isName_of_anyIdent? named).exists_start
    exact ⟨_, by simp, splits_ident? _ _ _ found⟩

/-! ### Comments -/

theorem lexemeStep_slash (opens : rest.head? = some '/' ∨ rest.head? = some '*') :
    lexemeStep ('/' :: rest) = match plainComment? ('/' :: rest) with
      | some rest => some ([], rest)
      | none => (docComment? ('/' :: rest)).map fun comment =>
          ([.documentation comment.inner comment.text], comment.rest) := by
  unfold lexemeStep
  rw [step_slash opens]
  cases plainComment? ('/' :: rest) with
  | some rest => rfl
  | none => cases docComment? ('/' :: rest) <;> rfl

/-- The lexeme of a comment that documents something, unless a return stands alone in it. -/
def documented (inner : Bool) (text rest : List Char) : Option (List Lexeme × List Char) :=
  if returnsPaired text then some ([.documentation inner text], rest) else none

theorem map_filter_documented (comment : DocComment) :
    ((some comment).filter fun comment => returnsPaired comment.text).map
      (fun comment => ([Lexeme.documentation comment.inner comment.text], comment.rest)) =
      documented comment.inner comment.text comment.rest := by
  cases paired : returnsPaired comment.text <;> simp [documented, paired]

theorem lexemeStep_line (body : List Char) :
    lexemeStep ('/' :: '/' :: body) =
      if isDocLine body then
        documented (body.head? = some '!') (toLineEnd body.tail).1 (toLineEnd body.tail).2
      else some ([], (toLineEnd body).2) := by
  rw [lexemeStep_slash (.inl rfl), plainComment?_line, docComment?_line]
  cases isDocLine body with
  | false => rfl
  | true => exact map_filter_documented _

/-- The text between the marks of a comment. -/
def blockText (taken : List Char) : List Char := (taken.drop 3).dropLast.dropLast

theorem lexemeStep_block (body : List Char) :
    lexemeStep ('/' :: '*' :: body) =
      (blockComment 0 ('/' :: '*' :: body)).bind fun (taken, rest) =>
        if isDocBlock body then documented (body.head? = some '!') (blockText taken) rest
        else some ([], rest) := by
  by_cases closed : body.head? = some '*' ∧ body.tail.head? = some '/'
  · obtain ⟨star, slash⟩ := closed
    obtain ⟨body, rfl⟩ := List.head?_eq_some_iff.mp star
    obtain ⟨body, rfl⟩ := List.head?_eq_some_iff.mp slash
    rw [lexemeStep_slash (.inr rfl)]
    simp [plainComment?, blockComment, isDocBlock, Scanned.prepend]
  · rw [lexemeStep_slash (.inr rfl), plainComment?_block,
      docComment?_block body (not_and.mp closed)]
    cases documents : isDocBlock body with
    | false =>
      cases blockComment 0 ('/' :: '*' :: body) <;> rfl
    | true =>
      simp only [if_true, ofBlock]
      cases blockComment 0 ('/' :: '*' :: body) with
      | none => rfl
      | some s => exact map_filter_documented _

/-- What is no comment is read as its tokens. -/
theorem lexemeStep_of_uncommented
    (plain : cs.head? = some '/' → cs.tail.head? ≠ some '/' ∧ cs.tail.head? ≠ some '*') :
    lexemeStep cs = (step cs).map fun (tokens, rest) => (tokens.map .token, rest) := by
  unfold lexemeStep
  rw [(uncommented cs plain).1, (uncommented cs plain).2]

theorem takes_toLineEnd (cs : List Char) : ∃ taken, cs = taken ++ (toLineEnd cs).2 := by
  fun_induction toLineEnd cs with
  | case1 => exact ⟨[], rfl⟩
  | case2 rest => exact ⟨[], rfl⟩
  | case3 rest => exact ⟨['\r'], rfl⟩
  | case4 c rest _ _ ih =>
    obtain ⟨taken, split⟩ := ih
    exact ⟨c :: taken, congrArg (c :: ·) split⟩

theorem takes_of_lexemeStep (front : lexemeStep cs = some (read, rest)) : Takes cs rest := by
  have stepped := stepped_iff.mp (step_eq_some_iff.mpr ⟨read, front, rfl⟩)
  generalize read.flatMap Lexeme.tokens = tokens at stepped
  cases stepped with
  | @blank c _ space => exact ⟨[c], by simp, rfl⟩
  | @line body _ _ _ =>
    rw [lexemeStep_line] at front
    obtain ⟨taken, split⟩ := takes_toLineEnd body
    obtain ⟨taken', split'⟩ := takes_toLineEnd body.tail
    split at front
    next documents =>
      obtain ⟨-, front⟩ := Option.ite_none_right_eq_some.mp front
      cases front
      cases body with
      | nil => cases documents
      | cons c body =>
        exact ⟨'/' :: '/' :: c :: taken', by simp, congrArg ('/' :: '/' :: c :: ·) split'⟩
    next =>
      cases front
      exact ⟨'/' :: '/' :: taken, by simp, congrArg ('/' :: '/' :: ·) split⟩
  | @block body _ _ _ =>
    rw [lexemeStep_block] at front
    obtain ⟨⟨taken, left⟩, closed, front⟩ := Option.bind_eq_some_iff.mp front
    obtain ⟨nonempty, split, -⟩ := closed_blockComment 0 _ _ _ closed
    have same : left = rest := by
      simp only at front
      split at front
      · obtain ⟨-, front⟩ := Option.ite_none_right_eq_some.mp front
        cases front
        rfl
      · cases front
        rfl
    exact ⟨taken, nonempty, by rw [split, same]⟩
  | failed => exact ⟨failedLiteral.toList, by decide, rfl⟩
  | @bracket c _ _ _ _ => exact ⟨[c], by simp, rfl⟩
  | leaf found => exact found.takes

/-- As many steps as there are characters are enough. -/
theorem lexemesWithin_iff {fuel : Nat} (enough : cs.length ≤ fuel) :
    lexemesWithin fuel cs = some read ↔ Reads cs read := by
  induction fuel generalizing cs read with
  | zero =>
    obtain rfl := List.length_eq_zero_iff.mp (Nat.le_zero.mp enough)
    rw [lexemesWithin, Option.some.injEq]
    exact ⟨fun same => same ▸ .nil, fun reads => Reads.nil.unique reads⟩
  | succ fuel ih =>
    cases cs with
    | nil =>
      rw [lexemesWithin, Option.some.injEq]
      exact ⟨fun same => same ▸ .nil, fun reads => Reads.nil.unique reads⟩
    | cons c more =>
      rw [lexemesWithin.eq_3 _ _ (by simp)]
      cases front : lexemeStep (c :: more) with
      | none =>
        exact iff_of_false nofun (Reads.not_of_front front (by simp))
      | some s =>
        obtain ⟨first, rest⟩ := s
        obtain ⟨taken, nonempty, split⟩ := takes_of_lexemeStep front
        have positive := List.length_pos_of_ne_nil nonempty
        have whole := congrArg List.length split
        rw [List.length_append] at whole
        rw [Reads.of_front front]
        simp only [Option.map_eq_some_iff, ih (by omega : rest.length ≤ fuel)]
        exact exists_congr fun others => by rw [and_comm, eq_comm]

theorem lexemes_iff : lexemes cs = some read ↔ Reads (withoutMark cs) read :=
  lexemesWithin_iff (Nat.le_refl _)

end

end Lexer

end Companion.Code

import Companion.Code.Lexer
import Companion.Proofs.Text.Basic
import Mathlib.Data.List.TakeWhile

/-! Names in source text: how they are written, and how they are told from what follows them.

The letters of a name come from a table that is written as a text. The few questions about
letters outside ASCII are answered by reading that table once.
-/

set_option autoImplicit false

namespace Companion

namespace Unicode

theorem toList_join (texts : List String) :
    (String.join texts).toList = texts.flatMap String.toList := by
  suffices ∀ start : String,
      (texts.foldl (· ++ ·) start).toList = start.toList ++ texts.flatMap String.toList by
    simpa [String.join] using this ""
  induction texts with
  | nil => simp
  | cons text texts ih =>
    intro start
    simp [ih]

/-- The characters that texts have together. -/
inductive Spelled : List String → List Char → Prop
  | nil : Spelled [] []
  | cons {text : String} {cs more : List Char} {texts : List String}
      (first : text = String.ofList cs) (others : Spelled texts more) :
      Spelled (text :: texts) (cs ++ more)

theorem Spelled.toList_join {texts : List String} {cs : List Char} (spelled : Spelled texts cs) :
    (String.join texts).toList = cs := by
  rw [Unicode.toList_join]
  induction spelled with
  | nil => rfl
  | cons first _ ih => rw [List.flatMap_cons, ih, first, String.toList_ofList]

/-- Blanks, direction marks and the byte order mark, as far as they are no ASCII. -/
def unlettered : List Nat :=
  [0x85, 0xA0, 0x1680] ++ List.range' 0x2000 16 ++ [0x2028, 0x2029, 0x202F, 0x205F, 0x3000, 0xFEFF]

theorem Spelled.avoids {texts : List String} {cs : List Char} {avoided : List Nat}
    (spelled : Spelled texts cs) (known : avoided.all fun n =>
      !(Ranges.spansFrom 0 (Ranges.numbers cs 0)).any (·.contains (Char.ofNat n))) :
    ∀ n ∈ avoided, (Ranges.ofRuns (String.join texts)).contains (Char.ofNat n) = false := by
  intro n member
  rw [Ranges.ofRuns, spelled.toList_join]
  exact Bool.not_eq_eq_eq_not.mp (List.all_eq_true.mp known n member)

theorem identifierStart_avoids :
    ∀ n ∈ unlettered, identifierStart.contains (Char.ofNat n) = false := by
  unfold identifierStart
  apply Spelled.avoids
  · simp only
    repeat' first | exact Spelled.nil | apply Spelled.cons rfl
  · decide +kernel

theorem not_ascii_of_unlettered : ∀ n ∈ unlettered, ¬ n < 128 := by decide

theorem isIdentifierStart_of_unlettered {c : Char} (member : c.toNat ∈ unlettered) :
    isIdentifierStart c = false := by
  have avoided := identifierStart_avoids _ member
  rw [Char.ofNat_toNat] at avoided
  rw [isIdentifierStart, if_neg (not_ascii_of_unlettered _ member), avoided]

/-- The same without the joiners, which words may hold. -/
def unwritten : List Nat := unlettered.filter fun n => n < 0x200B ∨ 0x200D < n

theorem identifierContinue_avoids :
    ∀ n ∈ unwritten, identifierContinue.contains (Char.ofNat n) = false := by
  unfold identifierContinue
  apply Spelled.avoids
  · simp only
    repeat' first | exact Spelled.nil | apply Spelled.cons rfl
  · decide +kernel

theorem isIdentifierContinue_of_unwritten {c : Char} (member : c.toNat ∈ unwritten) :
    isIdentifierContinue c = false := by
  have avoided := identifierContinue_avoids _ member
  rw [Char.ofNat_toNat] at avoided
  rw [isIdentifierContinue, if_neg (not_ascii_of_unlettered _ (List.mem_of_mem_filter member)),
    avoided]

/-! ### What begins a word goes on with it -/

/-- Each span of a row lies in one of another row. Both rows rise. -/
def Span.within : List Span → List Span → Bool
  | inner, [] => inner.isEmpty
  | inner, outer :: others =>
    (inner.takeWhile (·.last ≤ outer.last)).all (outer.first ≤ ·.first) &&
      within (inner.dropWhile (·.last ≤ outer.last)) others

theorem contains_of_within {inner outer : List Span} {c : Char}
    (known : Span.within inner outer = true) (inside : (Ranges.mk inner).contains c = true) :
    (Ranges.mk outer).contains c = true := by
  simp only [Ranges.contains, List.any_eq_true, Span.contains, Bool.and_eq_true,
    decide_eq_true_eq] at inside ⊢
  induction outer generalizing inner with
  | nil =>
    obtain ⟨s, member, -⟩ := inside
    rw [List.isEmpty_iff.mp known] at member
    cases member
  | cons t others ih =>
    obtain ⟨s, member, first, last⟩ := inside
    rw [Span.within, Bool.and_eq_true, List.all_eq_true] at known
    rw [← List.takeWhile_append_dropWhile (p := (·.last ≤ t.last)) (l := inner),
      List.mem_append] at member
    rcases member with member | member
    · have before := of_decide_eq_true (known.1 s member)
      have behind : s.last ≤ t.last := by simpa using List.mem_takeWhile_imp member
      exact ⟨t, List.mem_cons_self, Char.le_trans before first, Char.le_trans last behind⟩
    · obtain ⟨u, among, holds⟩ := ih known.2 ⟨s, member, first, last⟩
      exact ⟨u, List.mem_cons_of_mem t among, holds⟩

theorem Spelled.contains {texts texts' : List String} {cs cs' : List Char} {c : Char}
    (inside : (Ranges.ofRuns (String.join texts)).contains c = true)
    (spelled : Spelled texts cs) (spelled' : Spelled texts' cs')
    (known : Span.within (Ranges.spansFrom 0 (Ranges.numbers cs 0))
      (Ranges.spansFrom 0 (Ranges.numbers cs' 0)) = true) :
    (Ranges.ofRuns (String.join texts')).contains c = true := by
  rw [Ranges.ofRuns, Spelled.toList_join spelled] at inside
  rw [Ranges.ofRuns, Spelled.toList_join spelled']
  exact contains_of_within known inside

theorem identifierContinue_contains {c : Char} (start : identifierStart.contains c = true) :
    identifierContinue.contains c = true := by
  unfold identifierStart at start
  unfold identifierContinue
  apply Spelled.contains start
  · simp only
    repeat' first | exact Spelled.nil | apply Spelled.cons rfl
  · simp only
    repeat' first | exact Spelled.nil | apply Spelled.cons rfl
  · decide +kernel

theorem isIdentifierContinue_of_isIdentifierStart {c : Char} (start : isIdentifierStart c = true) :
    isIdentifierContinue c = true := by
  unfold isIdentifierStart at start
  unfold isIdentifierContinue
  split at start
  next ascii =>
    rw [if_pos ascii]
    simp only [Char.isAlphanum, Bool.or_eq_true] at start ⊢
    exact start.imp_left .inl
  next other => rw [if_neg other, identifierContinue_contains start]

end Unicode

namespace Code.Lexer

open Unicode (isIdentifierStart isIdentifierContinue)

theorem not_isIdentifierContinue_of_isSpace {c : Char} (space : isSpace c = true) :
    isIdentifierContinue c = false := by
  have ascii : ∀ n ∈ [9, 10, 11, 12, 13, 0x20], isIdentifierContinue (Char.ofNat n) = false := by
    decide
  have listed : c.toNat ∈ [9, 10, 11, 12, 13, 0x20] ∨ c.toNat ∈ Unicode.unwritten := by
    simp only [isSpace, Chars.isBlank, Bool.or_eq_true, Bool.and_eq_true, decide_eq_true_eq,
      beq_iff_eq] at space
    simp only [Unicode.unwritten, Unicode.unlettered, List.mem_filter, List.mem_cons,
      List.mem_append, List.mem_range'_1, List.not_mem_nil, decide_eq_true_eq]
    rcases space with (space | rfl) | rfl
    · omega
    · decide
    · decide
  rcases listed with listed | listed
  · have known := ascii _ listed
    rwa [Char.ofNat_toNat] at known
  · exact Unicode.isIdentifierContinue_of_unwritten listed

theorem not_isIdentifierStart_of_isSpace {c : Char} (space : isSpace c = true) :
    isIdentifierStart c = false := by
  have last := not_isIdentifierContinue_of_isSpace space
  rw [← Bool.not_eq_true] at last ⊢
  exact mt Unicode.isIdentifierContinue_of_isIdentifierStart last

/-- A word: a letter, with letters, digits and marks after it. -/
def IsWord : List Char → Prop
  | [] => False
  | c :: more => isIdentifierStart c ∧ ∀ d ∈ more, isIdentifierContinue d

theorem IsWord.ne_nil {word : List Char} (letters : IsWord word) : word ≠ [] := by
  rintro rfl
  exact letters

/-- A word, or one that a raw mark makes a name. -/
inductive IsName : List Char → Prop
  | plain {word : List Char} (letters : IsWord word) : IsName word
  | raw {word : List Char} (letters : IsWord word) (allowed : word ∉ neverRaw) :
      IsName ('r' :: '#' :: word)

theorem IsName.exists_start {name : List Char} (named : IsName name) :
    ∃ c more, name = c :: more ∧ isIdentifierStart c = true := by
  cases named with
  | plain letters =>
    obtain ⟨c, more, rfl⟩ := List.exists_cons_of_ne_nil letters.ne_nil
    exact ⟨c, more, rfl, letters.1⟩
  | raw => exact ⟨'r', _, rfl, by decide⟩

/-- What may follow a name: it neither goes on nor becomes a literal. -/
def EndsName : List Char → Prop
  | [] => True
  | c :: _ => isIdentifierContinue c = false ∧ c ≠ '"' ∧ c ≠ '#' ∧ c ≠ '\''

theorem endsName_mark {c : Char}
    (listed : c ∈ [' ', ',', '<', '>', ':', ';', '.', '|', '(', ')', ']'])
    (after : List Char) : EndsName (c :: after) := by
  have known : ∀ c ∈ [' ', ',', '<', '>', ':', ';', '.', '|', '(', ')', ']'],
      isIdentifierContinue c = false ∧ c ≠ '"' ∧ c ≠ '#' ∧ c ≠ '\'' :=
    Chars.forall_mem_of_all (by decide)
  exact known c listed

theorem isName_mut : IsName ['m', 'u', 't'] :=
  .plain ⟨by decide, Chars.forall_mem_of_all (by decide)⟩

theorem isName_dyn : IsName ['d', 'y', 'n'] :=
  .plain ⟨by decide, Chars.forall_mem_of_all (by decide)⟩

/-- The rest of a text after the first letters of a word. -/
def IsTail : List Char → Prop
  | [] => True
  | c :: rest => if isIdentifierContinue c then IsTail rest else EndsName (c :: rest)

theorem IsTail.head {c : Char} {rest : List Char} (tail : IsTail (c :: rest)) :
    c ≠ '"' ∧ c ≠ '#' ∧ c ≠ '\'' := by
  rw [IsTail] at tail
  split at tail
  next goesOn => refine ⟨?_, ?_, ?_⟩ <;> rintro rfl <;> exact absurd goesOn (by decide)
  next => exact tail.2

theorem IsTail.rest {c : Char} {rest : List Char} (tail : IsTail (c :: rest))
    (goesOn : isIdentifierContinue c = true) : IsTail rest := by
  rwa [IsTail, if_pos goesOn] at tail

theorem EndsName.isTail {rest : List Char} (ends : EndsName rest) : IsTail rest := by
  cases rest with
  | nil => trivial
  | cons c rest => rwa [IsTail, if_neg (by simp [ends.1])]

theorem isTail_append {more rest : List Char} (letters : ∀ d ∈ more, isIdentifierContinue d)
    (ends : EndsName rest) : IsTail (more ++ rest) := by
  induction more with
  | nil => exact ends.isTail
  | cons d more ih =>
    rw [List.cons_append, IsTail, if_pos (letters d List.mem_cons_self)]
    exact ih fun e member => letters e (List.mem_cons_of_mem d member)

/-! ### Names are read back -/

theorem word?_append {word rest : List Char} (letters : IsWord word) (ends : EndsName rest) :
    word? (word ++ rest) = some (word, rest) := by
  cases word with
  | nil => exact letters.elim
  | cons c more =>
    have stops : rest.takeWhile isIdentifierContinue = [] ∧
        rest.dropWhile isIdentifierContinue = rest := by
      cases rest with
      | nil => exact ⟨rfl, rfl⟩
      | cons d rest => simp [ends.1]
    rw [List.cons_append, word?, if_pos letters.1, List.takeWhile_append_of_pos letters.2,
      List.dropWhile_append_of_pos letters.2, stops.1, stops.2, List.append_nil]

theorem isWord_of_word? {cs word rest : List Char} (found : word? cs = some (word, rest)) :
    IsWord word := by
  cases cs with
  | nil => cases found
  | cons c more =>
    rw [word?] at found
    split at found
    next start =>
      cases found
      exact ⟨start, fun d member => List.mem_takeWhile_imp member⟩
    next => cases found

theorem anyIdent?_append {name rest : List Char} (named : IsName name) (ends : EndsName rest) :
    anyIdent? (name ++ rest) = some (name, rest) := by
  cases named with
  | plain letters =>
    have plain : ∀ more, name ++ rest ≠ 'r' :: '#' :: more := by
      intro more same
      obtain ⟨c, tail, rfl⟩ := List.exists_cons_of_ne_nil letters.ne_nil
      rw [List.cons_append, List.cons.injEq] at same
      have tailed := isTail_append letters.2 ends
      rw [same.2] at tailed
      exact tailed.head.2.1 rfl
    rw [anyIdent?, word?_append letters ends]
    exact plain
  | raw letters allowed =>
    simp only [List.cons_append]
    rw [anyIdent?, word?_append letters ends]
    simp [allowed]

theorem isName_of_anyIdent? {cs name rest : List Char}
    (found : anyIdent? cs = some (name, rest)) : IsName name := by
  unfold anyIdent? at found
  split at found
  · split at found
    next found' =>
      split at found
      · cases found
      next allowed =>
        cases found
        exact .raw (isWord_of_word? found') (by simpa using allowed)
    next => cases found
  · exact .plain (isWord_of_word? found)

end Code.Lexer

end Companion

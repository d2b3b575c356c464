import Companion.Proofs.Text.Template

/-! Format strings, by the rules of the macros that read them.

A doubled brace stands for one brace, and `{:?}` is a hole for the next value, given here by the
text that shows it. Such a macro takes neither too few values nor too many.
-/

set_option autoImplicit false

namespace Companion

/-- Why a formatting macro refuses a format string or the values for it. -/
inductive FormatError where
  /-- An opening brace that is not doubled and opens no `{:?}`. -/
  | openBrace
  /-- A closing brace that is not doubled and closes nothing. -/
  | closeBrace
  | missingValue
  | unusedValue
  deriving DecidableEq, Repr

namespace FormatString

/-- The texts around the holes of a format string. -/
def read : List Char → Except FormatError (List (List Char))
  | [] => .ok [[]]
  | '{' :: '{' :: rest => List.modifyHead ('{' :: ·) <$> read rest
  | '}' :: '}' :: rest => List.modifyHead ('}' :: ·) <$> read rest
  | '{' :: ':' :: '?' :: '}' :: rest => ([] :: ·) <$> read rest
  | '{' :: _ => .error .openBrace
  | '}' :: _ => .error .closeBrace
  | c :: rest => List.modifyHead (c :: ·) <$> read rest

/-- Texts with values between them, if there is one value for each hole. -/
def write (values : List String) (pieces : List (List Char)) : Except FormatError String :=
  if values.length + 1 < pieces.length then .error .missingValue
  else if pieces.length < values.length + 1 then .error .unusedValue
  else .ok (String.ofList (Template.interleave pieces (values.map String.toList)))

/-- What a formatting macro makes of a format string and values. -/
def format (text : String) (values : List String) : Except FormatError String :=
  read text.toList >>= write values

theorem read_cons {c : Char} (noOpen : c ≠ '{') (noClose : c ≠ '}') (rest : List Char) :
    read (c :: rest) = List.modifyHead (c :: ·) <$> read rest := by
  rw [read] <;> simp_all

/-- A template and its format string say the same texts around their holes: no brace that stands
next to a hole is read as one of it. -/
theorem read_formatChars (cs : List Char) :
    read (Template.formatChars cs) = .ok (Template.piecesIn cs) := by
  -- What is written for one character is read before the next one is looked at, so the cases of
  -- the writer are enough.
  fun_induction Template.formatChars cs with
  | case1 => rfl
  | case2 rest ih =>
    rw [read, ih, Template.piecesIn_cons (by decide)]
    rfl
  | case3 rest ih =>
    rw [read, ih, Template.piecesIn_cons (by decide)]
    rfl
  | case4 rest ih =>
    rw [read_cons (by decide) (by decide), ih, Template.piecesIn]
    rfl
  | case5 rest single ih =>
    rw [read, ih, Template.piecesIn]
    · rfl
    · exact single
  | case6 c rest noOpen noClose noPair noDollar ih =>
    rw [read_cons noOpen noClose, ih, Template.piecesIn_cons noDollar]
    rfl

theorem format_toFormat (template : String) (values : List String) :
    format (Template.toFormat template) values =
      write values (Template.piecesIn template.toList) := by
  rw [format, Template.toFormat, Text.onChars, String.toList_ofList, read_formatChars]
  rfl

theorem format_toFormat_of_each {template : String} {values : List String}
    (each : Template.holes template = values.length) :
    format (Template.toFormat template) values = .ok (Template.substitute template values) := by
  have pieces : (Template.piecesIn template.toList).length = values.length + 1 := by
    rw [Template.length_piecesIn, ← each, Template.holes]
  have same : Template.holesIn template.toList = (values.map String.toList).length :=
    each.trans (List.length_map _).symm
  rw [format_toFormat, write, if_neg (by omega), if_neg (by omega),
    ← Template.fill_eq_interleave same, Template.substitute]

/-- The format string of a template says of values what the template says of them, and takes as many
as the template has holes. -/
theorem format_of_template (template : String) (values : List String) :
    format (Template.toFormat template) values =
      if values.length < Template.holes template then .error .missingValue
      else if Template.holes template < values.length then .error .unusedValue
      else .ok (Template.substitute template values) := by
  rcases Nat.lt_trichotomy values.length (Template.holes template) with fewer | each | more
  · rw [if_pos fewer, format_toFormat, write, Template.length_piecesIn, if_pos]
    exact Nat.add_lt_add_right fewer 1
  · rw [if_neg (by omega), if_neg (by omega)]
    exact format_toFormat_of_each each.symm
  · rw [if_neg (by omega), if_pos more, format_toFormat, write, Template.length_piecesIn,
      if_neg, if_pos]
    · exact Nat.add_lt_add_right more 1
    · exact Nat.not_lt.mpr (Nat.add_le_add_right (Nat.le_of_lt more) 1)

end FormatString

end Companion

import Companion.Text.Basic

/-! The kinds of validators and their tags. -/

set_option autoImplicit false

namespace Companion

inductive Comparison where
  | greater
  | greaterOrEqual
  | less
  | lessOrEqual
  deriving DecidableEq, Repr

def Comparison.symbol : Comparison → String
  | greater => ">"
  | greaterOrEqual => ">="
  | less => "<"
  | lessOrEqual => "<="

/-- Limits on a length. -/
inductive SizeRule where
  | nonEmpty
  | empty
  | emptyOrSingle
  | atMost
  | atLeast
  deriving DecidableEq, Repr

inductive Validator where
  | parity (even : Bool)
  | multipleOf
  /-- Comparison with zero. -/
  | sign (comparison : Comparison)
  | compare (comparison : Comparison)
  | size (rule : SizeRule)
  | pattern
  | strictOrder (ascending : Bool)
  | nonNullableElements
  | assignableTo
  deriving DecidableEq, Repr

namespace Validator

def all : List Validator := [
  parity true, parity false, multipleOf,
  sign .greater, sign .greaterOrEqual, sign .less, sign .lessOrEqual,
  compare .greater, compare .greaterOrEqual, compare .less, compare .lessOrEqual,
  size .nonEmpty, size .empty, size .emptyOrSingle, size .atMost, size .atLeast,
  pattern, strictOrder true, strictOrder false, nonNullableElements, assignableTo]

def tag : Validator → String
  | parity true => "even"
  | parity false => "uneven"
  | multipleOf => "multiple_of"
  | sign .greater => "positive"
  | sign .greaterOrEqual => "non_negative"
  | sign .less => "negative"
  | sign .lessOrEqual => "non_positive"
  | compare .greater => "greater_than"
  | compare .greaterOrEqual => "greater_than_or_equal_to"
  | compare .less => "less_than"
  | compare .lessOrEqual => "less_than_or_equal_to"
  | size .nonEmpty => "non_empty"
  | size .empty => "empty"
  | size .emptyOrSingle => "empty_or_single"
  | size .atMost => "max_size"
  | size .atLeast => "min_size"
  | pattern => "regex"
  | strictOrder true => "strictly_ascending"
  | strictOrder false => "strictly_descending"
  | nonNullableElements => "non_nullable_elements"
  | assignableTo => "assignable_to"

def needsArgument : Validator → Bool
  | multipleOf | compare _ | size .atMost | size .atLeast | pattern | assignableTo => true
  | _ => false

def isSize : Validator → Bool
  | size _ => true
  | _ => false

/-- Other names of tags. -/
def canonicalTag : String → String
  | "odd" => "uneven"
  | "not_empty" => "non_empty"
  | "regex_match" => "regex"
  | "matches" => "regex"
  | "assignable" => "assignable_to"
  | other => other

/-- A tag in small letters, with underscores for dashes and no blanks at its ends. -/
def plainTag (written : String) : String :=
  Text.onChars (fun cs => cs.map fun c => if c = '-' then '_' else c.toLower) (Text.trim written)

def ofTag? (written : String) : Option Validator :=
  let tag := canonicalTag (plainTag written)
  all.find? (·.tag == tag)

/-- Why a tag names no validator. -/
def unknownMessage (tag : String) : String := "Unknown validator `" ++ tag ++ "`."

end Validator

end Companion

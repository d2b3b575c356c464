/-! Values that converters write and read. -/

set_option autoImplicit false

namespace Companion

inductive Value where
  | null
  | bool (value : Bool)
  | integer (value : Int64)
  | unsigned (value : UInt64)
  | float (value : Float)
  | text (value : String)
  | list (items : List Value)
  /-- Named entries in order. -/
  | record (entries : List (String × Value))
  deriving Inhabited

namespace Value

/-- What messages call values of this kind. -/
def kind : Value → String
  | null => "null"
  | bool _ => "bool"
  | integer _ => "integer"
  | unsigned _ => "unsigned integer"
  | float _ => "float"
  | text _ => "text"
  | list _ => "list"
  | record _ => "record"

/-- The first entry of a record by its name. -/
def get? (v : Value) (name : String) : Option Value :=
  match v with
  | record entries => entries.lookup name
  | _ => none

def fieldNames : Value → List String
  | record entries => entries.map Prod.fst
  | _ => []

end Value

/-! ### Why a value cannot be built or read -/

/-- A check of a constructor that failed. -/
structure Violation where
  field : String
  message : String
  deriving DecidableEq, Repr

inductive BuildError where
  | missing (type : String) (fields : List String)
  | violation (violation : Violation)
  deriving DecidableEq, Repr

namespace BuildError

def message : BuildError → String
  | missing type fields =>
    "Cannot build " ++ type ++ ": missing required fields " ++ ", ".intercalate fields
  | violation v => v.message

def missingFields : BuildError → List String
  | missing _ fields => fields
  | violation _ => []

end BuildError

inductive ConversionError where
  | mismatch (expected found : String)
  | outOfRange (value : Int) (expected : String)
  | unknownField (type field : String)
  | duplicateField (type field : String)
  | inField (type field : String) (source : ConversionError)
  | build (error : BuildError)
  deriving DecidableEq, Repr

namespace ConversionError

def message : ConversionError → String
  | mismatch expected found => "expected " ++ expected ++ " but found " ++ found
  | outOfRange value expected => toString value ++ " is out of range for " ++ expected
  | unknownField type field => type ++ " has no field `" ++ field ++ "`"
  | duplicateField type field =>
    "field `" ++ field ++ "` appears more than once in " ++ type
  | inField type field source => type ++ "." ++ field ++ ": " ++ source.message
  | build e => e.message

/-- The error without the fields around it. -/
def root : ConversionError → ConversionError
  | inField _ _ source => source.root
  | e => e

/-- A value of another kind than expected. -/
def expected (what : String) (found : Value) : ConversionError := mismatch what found.kind

end ConversionError

end Companion

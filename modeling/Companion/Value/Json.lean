import Companion.Decimal.Word
import Companion.Json.Reader
import Companion.Value.Basic

/-! Values as JSON: an object with the kind as its one key. -/

set_option autoImplicit false

namespace Companion.Value

mutual

def toJson : Value → Json
  | null => .text "null"
  | bool b => .object [("bool", .bool b)]
  | integer n => .object [("integer", .integer n.toInt)]
  | unsigned n => .object [("unsigned", .integer n.toNat)]
  | float x => .object [("float", .float x)]
  | text s => .object [("text", .text s)]
  | list items => .object [("list", .array (toJsons items))]
  | record entries => .object [("record", .array (entriesToJson entries))]

def toJsons : List Value → List Json
  | [] => []
  | v :: others => toJson v :: toJsons others

def entriesToJson : List (String × Value) → List Json
  | [] => []
  | (name, v) :: others => .array [.text name, toJson v] :: entriesToJson others

end

/-- A value that is no list and no record. -/
def ofScalar? : String → Json → Option Value
  | "null", .null => some null
  | "bool", .bool b => some (bool b)
  | "integer", .integer n =>
    if Word.fitsSigned 64 n then some (integer (Int64.ofInt n)) else none
  | "unsigned", .integer n => if 0 ≤ n then some (unsigned (UInt64.ofNat n.toNat)) else none
  | "float", .float x => some (float x)
  | "float", .integer n => some (float (Float.ofInt n))
  | "text", .text s => some (text s)
  | _, _ => none

mutual

def ofJson? : Json → Option Value
  | .text "null" => some null
  | .object [(kind, content)] =>
    match kind, content with
    | "list", .array items => list <$> ofJsons? items
    | "record", .array entries => record <$> entriesOfJson? entries
    | kind, content => ofScalar? kind content
  | _ => none

def ofJsons? : List Json → Option (List Value)
  | [] => some []
  | j :: others => return (← ofJson? j) :: (← ofJsons? others)

def entriesOfJson? : List Json → Option (List (String × Value))
  | [] => some []
  | .array [.text name, j] :: others => return (name, ← ofJson? j) :: (← entriesOfJson? others)
  | _ :: _ => none

end

end Companion.Value

import Companion.Decimal.Layout

/-! JSON values and how they are written. -/

set_option autoImplicit false

namespace Companion

/-- A number is an integer if it is written as one and fits into 64 bits. -/
inductive Json where
  | null
  | bool (value : Bool)
  | integer (value : Int)
  | float (value : Float)
  | text (value : String)
  | array (items : List Json)
  | object (fields : List (String × Json))
  deriving Inhabited

namespace Json

def hexDigit (n : Nat) : Char := if n < 10 then Char.ofNat (48 + n) else Char.ofNat (87 + n)

/-- A character of a string. -/
def escapeChar (c : Char) : List Char :=
  match c with
  | '"' => ['\\', '"']
  | '\\' => ['\\', '\\']
  | '\n' => ['\\', 'n']
  | '\r' => ['\\', 'r']
  | '\t' => ['\\', 't']
  | _ =>
    if c.toNat = 8 then ['\\', 'b']
    else if c.toNat = 12 then ['\\', 'f']
    else if c.toNat < 32 then
      ['\\', 'u', '0', '0', hexDigit (c.toNat / 16), hexDigit (c.toNat % 16)]
    else [c]

def quote (s : String) : String := String.ofList ('"' :: s.toList.flatMap escapeChar ++ ['"'])

/-- Floats that are no numbers have no form of their own. -/
def floatText (x : Float) : String := if Decimal.isFinite x then Decimal.jsonText x else "null"

mutual

/-- The text without blanks. -/
def compact : Json → String
  | null => "null"
  | bool b => toString b
  | integer n => toString n
  | float x => floatText x
  | text s => quote s
  | array items => "[" ++ ",".intercalate (compactAll items) ++ "]"
  | object fields => "\x7b" ++ ",".intercalate (compactFields fields) ++ "\x7d"

def compactAll : List Json → List String
  | [] => []
  | j :: others => compact j :: compactAll others

def compactFields : List (String × Json) → List String
  | [] => []
  | (name, j) :: others => (quote name ++ ":" ++ compact j) :: compactFields others

end

def indentation (depth : Nat) : String := String.ofList (List.replicate (2 * depth) ' ')

/-- Members on lines of their own. -/
def block (opening closing : String) (depth : Nat) (members : List String) : String :=
  if members.isEmpty then opening ++ closing
  else
    let line (member : String) := "\n" ++ indentation (depth + 1) ++ member
    opening ++ ",".intercalate (members.map line) ++ "\n" ++ indentation depth ++ closing

mutual

/-- The text with each member on a line of its own, two spaces deeper than what holds it. -/
def pretty (depth : Nat) : Json → String
  | array items => block "[" "]" depth (prettyAll (depth + 1) items)
  | object fields => block "\x7b" "\x7d" depth (prettyFields (depth + 1) fields)
  | j => compact j

def prettyAll (depth : Nat) : List Json → List String
  | [] => []
  | j :: others => pretty depth j :: prettyAll depth others

def prettyFields (depth : Nat) : List (String × Json) → List String
  | [] => []
  | (name, j) :: others => (quote name ++ ": " ++ pretty depth j) :: prettyFields depth others

end

end Json

end Companion

/-! Schemas of documents, as JSON. Keys of objects are written in order. -/

namespace Companion

/-- What a document of a kind looks like. -/
inductive Schema where
  | text
  /-- A text, unless it is left out. -/
  | optionalText
  | bool
  /-- A count of items. -/
  | count
  | integer
  | float
  /-- A text that is given. -/
  | exactly (name : String)
  | oneOfTexts (names : List String)
  | list (item : Schema)
  /-- A mapping with any keys. -/
  | dictionary (item : Schema)
  /-- A mapping with named entries, and whether it can have others. -/
  | record (fields : List (String × Schema)) (required : List String) (isOpen : Bool)
  | anyOf (alternatives : List Schema)
  | oneOf (alternatives : List Schema)
  /-- A schema that is defined under a name. -/
  | named (name : String)
  | described (description : String) (schema : Schema)
  | withDefault (default : Json) (schema : Schema)
  deriving Inhabited

namespace Schema

/-- Entries in the order of their keys. -/
def sorted (entries : List (String × Json)) : List (String × Json) :=
  entries.mergeSort fun a b => a.1 ≤ b.1

def typed (name : String) : String × Json := ("type", .text name)

mutual

/-- The entries of the object that a schema is written as. -/
def entries : Schema → List (String × Json)
  | text => [typed "string"]
  | optionalText => [("type", .array [.text "string", .text "null"])]
  | bool => [typed "boolean"]
  | count => [("format", .text "uint"), ("minimum", .integer 0), typed "integer"]
  | integer => [("format", .text "int64"), typed "integer"]
  | float => [("format", .text "double"), typed "number"]
  | exactly name => [("const", .text name), typed "string"]
  | oneOfTexts names => [("enum", .array (names.map .text)), typed "string"]
  | list item => [("items", .object (sorted item.entries)), typed "array"]
  | dictionary item => [("additionalProperties", .object (sorted item.entries)), typed "object"]
  | record fields required isOpen =>
    [("properties", .object (sorted (fieldEntries fields))), typed "object"] ++
      (if required.isEmpty then [] else [("required", .array (required.map .text))]) ++
      (if isOpen then [] else [("additionalProperties", .bool false)])
  | anyOf alternatives => [("anyOf", .array (all alternatives))]
  | oneOf alternatives => [("oneOf", .array (all alternatives))]
  | named name => [("$ref", .text ("#/$defs/" ++ name))]
  | described description schema => ("description", .text description) :: schema.entries
  | withDefault default schema => ("default", default) :: schema.entries

def all : List Schema → List Json
  | [] => []
  | s :: others => .object (sorted s.entries) :: all others

def fieldEntries : List (String × Schema) → List (String × Json)
  | [] => []
  | (name, s) :: others => (name, .object (sorted s.entries)) :: fieldEntries others

end

def toJson (s : Schema) : Json := .object (sorted s.entries)

end Schema

/-- A schema with those that it names. -/
structure SchemaDocument where
  title : String
  root : Schema
  definitions : List (String × Schema)

namespace SchemaDocument

def dialect : String := "https://json-schema.org/draft/2020-12/schema"

def toJson (d : SchemaDocument) : Json :=
  let definitions := if d.definitions.isEmpty then [] else
    [("$defs", Json.object (Schema.sorted (Schema.fieldEntries d.definitions)))]
  .object (Schema.sorted (definitions ++
    [("$schema", .text dialect), ("title", .text d.title)] ++ d.root.entries))

end SchemaDocument

end Companion

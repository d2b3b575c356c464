import Companion.Yaml.Lexer.Flow
import Companion.Yaml.Lexer.Cursor

/-! Tags, anchors and directives. -/

set_option autoImplicit false

namespace Companion.Yaml

namespace Tag

def isUriChar (verbatim : Bool) (c : Char) : Bool :=
  isNameChar c || ";/?:@&=+$.!~*'()".toList.contains c ||
    (verbatim && (c == ',' || c == '[' || c == ']'))

/-- A byte in hexadecimal after a percent sign. -/
def readByte (c : Cursor) : Option (Nat × Cursor) := do
  guard (c.isAt '%')
  return (← hexValue? 2 0 (c.rest.drop 1), c.skipN 3)

/-- Number of bytes of a character by its first one. -/
def width? (first : Nat) : Option Nat :=
  if first < 0x80 then some 1
  else if first / 0x20 = 0x6 then some 2
  else if first / 0x10 = 0xE then some 3
  else if first / 0x8 = 0x1E then some 4
  else none

/-- Bytes that do not come first in a character. -/
def readTrail : Nat → Cursor → Option (List UInt8 × Cursor)
  | 0, c => some ([], c)
  | count + 1, c => do
    let (n, c) ← readByte c
    guard (n / 0x40 = 0x2)
    let (bytes, c) ← readTrail count c
    return (n.toUInt8 :: bytes, c)

/-- As many bytes as the first one asks for. -/
def readEscape (c : Cursor) : Option (List UInt8 × Cursor) := do
  let (first, c) ← readByte c
  let (bytes, c) ← readTrail ((← width? first) - 1) c
  return (first.toUInt8 :: bytes, c)

def readUri (verbatim : Bool) : Nat → List UInt8 → Cursor → Option (List UInt8 × Cursor)
  | 0, _, _ => none
  | fuel + 1, bytes, c =>
    match c.head? with
    | none => some (bytes, c)
    | some '%' => do
      let (escaped, c) ← readEscape c
      readUri verbatim fuel (bytes ++ escaped) c
    | some x =>
      if isUriChar verbatim x then readUri verbatim fuel (bytes ++ [x.toNat.toUInt8]) c.skip
      else some (bytes, c)

/-- The bytes of a URI, of which there must be some unless characters precede them. A zero ends
them, and what follows it is passed. -/
def readSuffix (verbatim : Bool) (before : List Char) (c : Cursor) : Option (Tag × Cursor) := do
  let (bytes, c) ← readUri verbatim (c.rest.length + 1) [] c
  guard (!before.isEmpty || !bytes.isEmpty)
  let bytes := (before.drop 1).map (·.toNat.toUInt8) ++ bytes
  return (⟨bytes.takeWhile (· ≠ 0)⟩, c)

/-- A handle between exclamation marks, or what starts like one. -/
def readHandle (c : Cursor) : Option (List Char × Cursor) := do
  guard (c.isAt '!')
  let (name, c) := c.skip.takeWhile isNameChar
  if c.isAt '!' then return ('!' :: name ++ ['!'], c.skip)
  return ('!' :: name, c)

/-- The handle and suffix of a tag. A tag without a handle has its own text for a suffix. -/
def readParts (c : Cursor) : Option (String × Tag × Cursor) := do
  if c.ahead? 1 = some '<' then
    let (suffix, c) ← readSuffix true [] (c.skipN 2)
    guard (c.isAt '>')
    return ("", suffix, c.skip)
  let (handle, c) ← readHandle c
  if 1 < handle.length && handle.getLast? = some '!' then
    let (suffix, c) ← readSuffix false [] c
    return (String.ofList handle, suffix, c)
  let (suffix, c) ← readSuffix false handle c
  if suffix.bytes.isEmpty then return ("", lone, c)
  return ("!", suffix, c)

def read (inFlow : Bool) (c : Cursor) : Option (String × Tag × Cursor) := do
  let (handle, suffix, c) ← readParts c
  guard (c.isSeparated 0 || (inFlow && c.isAt ','))
  return (handle, suffix, c)

end Tag

namespace Anchor

/-- The name of an anchor or alias after its sign. -/
def read (c : Cursor) : Option (String × Cursor) := do
  let (name, c) := c.skip.takeWhile isNameChar
  guard !name.isEmpty
  guard (c.isSeparated 0 || c.head?.any fun x => "?:,]\x7d%@`".toList.contains x)
  return (String.ofList name, c)

end Anchor

namespace Directive

/-- A number of at most nine digits. -/
def readNumber (c : Cursor) : Option (Nat × Cursor) := do
  let (digits, c) := c.takeWhile Char.isDigit
  guard (!digits.isEmpty && digits.length ≤ 9)
  return (digits.foldl (fun n d => 10 * n + (d.toNat - 48)) 0, c)

inductive Content where
  | version (major minor : Nat)
  | tag (handle : String) (expansion : Tag)

def readVersion (c : Cursor) : Option (Content × Cursor) := do
  let (major, c) ← readNumber c.skipBlanks
  guard (c.isAt '.')
  let (minor, c) ← readNumber c.skip
  return (.version major minor, c)

def readTag (c : Cursor) : Option (Content × Cursor) := do
  let (handle, c) ← Tag.readHandle c.skipBlanks
  guard (handle.length = 1 || handle.getLast? = some '!')
  guard c.atBlank
  let (expansion, c) ← Tag.readSuffix true [] c.skipBlanks
  guard (c.isSeparated 0)
  return (.tag (String.ofList handle) expansion, c)

/-- A directive and the rest of its line. -/
def read (c : Cursor) : Option (Content × Cursor) := do
  let (name, c) := c.skip.takeWhile isNameChar
  guard (!name.isEmpty && c.isSeparated 0)
  let (content, c) ← match String.ofList name with
    | "YAML" => readVersion c
    | "TAG" => readTag c
    | _ => none
  let c := c.skipComment
  guard c.atLineEnd
  return (content, c.skipBreak)

end Directive

end Companion.Yaml

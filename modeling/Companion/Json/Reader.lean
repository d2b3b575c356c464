import Companion.Json.Number

/-! Reading JSON. -/

set_option autoImplicit false

namespace Companion.Json

abbrev Parser := StateT (List Char) Option

namespace Parser

def isBlank (c : Char) : Bool := c == ' ' || c == '\n' || c == '\r' || c == '\t'

def blanks : Parser Unit := modify (·.dropWhile isBlank)

/-- The next character, which there must be. -/
def next : Parser Char := do
  match ← get with
  | c :: rest =>
    set rest
    return c
  | [] => failure

def peek : Parser (Option Char) := return (← get).head?

def expect (c : Char) : Parser Unit := do
  guard ((← next) = c)

def literal (text : String) : Parser Unit := do
  let some rest := text.toList.isPrefixOf? (← get) | failure
  set rest

def hexDigit? (c : Char) : Option Nat :=
  if '0' ≤ c ∧ c ≤ '9' then some (c.toNat - 48)
  else if 'a' ≤ c ∧ c ≤ 'f' then some (c.toNat - 87)
  else if 'A' ≤ c ∧ c ≤ 'F' then some (c.toNat - 55)
  else none

/-- Four hexadecimal digits. -/
def unit16 : Parser Nat := do
  let digit : Parser Nat := do
    let some d := hexDigit? (← next) | failure
    return d
  let a ← digit
  let b ← digit
  let c ← digit
  let d ← digit
  return ((a * 16 + b) * 16 + c) * 16 + d

/-- A character by its code, or by a pair of surrogates. -/
def escapedCode : Parser Char := do
  let high ← unit16
  if 0xD800 ≤ high && high < 0xDC00 then
    literal "\\u"
    let low ← unit16
    guard (0xDC00 ≤ low && low < 0xE000)
    return Char.ofNat (0x10000 + (high - 0xD800) * 0x400 + (low - 0xDC00))
  guard (high < 0xD800 || 0xE000 ≤ high)
  return Char.ofNat high

def escaped : Parser Char := do
  match ← next with
  | '"' => return '"'
  | '\\' => return '\\'
  | '/' => return '/'
  | 'b' => return Char.ofNat 8
  | 'f' => return Char.ofNat 12
  | 'n' => return '\n'
  | 'r' => return '\r'
  | 't' => return '\t'
  | 'u' => escapedCode
  | _ => failure

/-- The characters up to the closing quote, at most `fuel` of them. -/
def stringChars : Nat → Parser (List Char)
  | 0 => failure
  | fuel + 1 => do
    match ← next with
    | '"' => return []
    | '\\' => return (← escaped) :: (← stringChars fuel)
    | c =>
      guard (32 ≤ c.toNat)
      return c :: (← stringChars fuel)

def string : Parser String := do
  expect '"'
  return String.ofList (← stringChars (← get).length)

def number : Parser Json := do
  let some (n, rest) := readNumber (← get) | failure
  set rest
  return n

mutual

/-- A value in which arrays and objects nest less than `depth` deep. -/
def value (depth : Nat) : Nat → Parser Json
  | 0 => failure
  | fuel + 1 => do
    blanks
    match ← peek with
    | some 'n' =>
      literal "null"
      return .null
    | some 't' =>
      literal "true"
      return .bool true
    | some 'f' =>
      literal "false"
      return .bool false
    | some '"' => return .text (← string)
    | some '[' =>
      guard (1 < depth)
      let _ ← next
      blanks
      if (← peek) = some ']' then
        let _ ← next
        return .array []
      return .array (← items (depth - 1) fuel)
    | some '\x7b' =>
      guard (1 < depth)
      let _ ← next
      blanks
      if (← peek) = some '\x7d' then
        let _ ← next
        return .object []
      return .object (← fields (depth - 1) fuel)
    | _ => number

def items (depth : Nat) : Nat → Parser (List Json)
  | 0 => failure
  | fuel + 1 => do
    let item ← value depth fuel
    blanks
    match ← next with
    | ',' => return item :: (← items depth fuel)
    | ']' => return [item]
    | _ => failure

def fields (depth : Nat) : Nat → Parser (List (String × Json))
  | 0 => failure
  | fuel + 1 => do
    blanks
    let name ← string
    blanks
    expect ':'
    let item ← value depth fuel
    blanks
    match ← next with
    | ',' => return (name, item) :: (← fields depth fuel)
    | '\x7d' => return [(name, item)]
    | _ => failure

end

end Parser

/-- Arrays and objects that nest as deep as this are refused. -/
def depthLimit : Nat := 128

def parse? (text : String) : Option Json := do
  let cs := text.toList
  let (j, rest) ← (Parser.value depthLimit (2 * cs.length + 2)).run cs
  guard (rest.all Parser.isBlank)
  return j

end Companion.Json

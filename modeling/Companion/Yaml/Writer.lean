import Companion.Json.Basic

/-! Writing texts, lists and mappings in YAML, in flow style.

Keys have a mark of their own, without which a key must be short.
-/

set_option autoImplicit false

namespace Companion.Yaml

/-- The last digits of a number in base sixteen. -/
def hexDigits : Nat → Nat → List Char
  | 0, _ => []
  | count + 1, n => hexDigits count (n / 16) ++ [Json.hexDigit (n % 16)]

/-- A character in double quotes. All but visible ASCII and blanks is written by its number. -/
def quoteChar (c : Char) : List Char :=
  if c = '"' ∨ c = '\\' then ['\\', c]
  else if ' ' ≤ c ∧ c ≤ '~' then [c]
  else '\\' :: 'U' :: hexDigits 8 c.toNat

def quote (s : String) : String := String.ofList ('"' :: s.toList.flatMap quoteChar ++ ['"'])

/-- A new line, indented by so many steps. -/
def newLine (depth : Nat) : String := String.ofList ('\n' :: List.replicate (2 * depth) ' ')

/-- Parts between brackets, each on a line. -/
def bracketed (opening closing : String) (depth : Nat) (parts : List String) : String :=
  opening ++ String.join (parts.map fun part => newLine (depth + 1) ++ part ++ ",") ++
    newLine depth ++ closing

def list (depth : Nat) (items : List String) : String := bracketed "[" "]" depth items

/-- Values under texts. -/
def mapping (depth : Nat) (entries : List (String × String)) : String :=
  bracketed "\x7b" "\x7d" depth (entries.map fun entry => "? " ++ quote entry.1 ++ " : " ++ entry.2)

end Companion.Yaml

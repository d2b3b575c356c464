import Companion.Yaml.Lexer.Cursor

/-! Quoted and plain scalars. -/

set_option autoImplicit false

namespace Companion.Yaml

def hexDigit? (c : Char) : Option Nat :=
  if '0' ≤ c ∧ c ≤ '9' then some (c.toNat - 48)
  else if 'a' ≤ c ∧ c ≤ 'f' then some (c.toNat - 87)
  else if 'A' ≤ c ∧ c ≤ 'F' then some (c.toNat - 55)
  else none

/-- A number of a fixed count of hexadecimal digits. -/
def hexValue? : Nat → Nat → List Char → Option Nat
  | 0, n, _ => some n
  | _ + 1, _, [] => none
  | count + 1, n, c :: rest => do hexValue? count (16 * n + (← hexDigit? c)) rest

namespace Quoted

/-- Escapes that stand for one character. -/
def escape? : Char → Option Char
  | '0' => some (Char.ofNat 0)
  | 'a' => some (Char.ofNat 7)
  | 'b' => some (Char.ofNat 8)
  | 't' => some '\t'
  | '\t' => some '\t'
  | 'n' => some '\n'
  | 'v' => some (Char.ofNat 11)
  | 'f' => some (Char.ofNat 12)
  | 'r' => some '\r'
  | 'e' => some (Char.ofNat 27)
  | ' ' => some ' '
  | '"' => some '"'
  | '/' => some '/'
  | '\\' => some '\\'
  | 'N' => some '\u0085'
  | '_' => some '\u00a0'
  | 'L' => some '\u2028'
  | 'P' => some '\u2029'
  | _ => none

/-- Number of digits of an escape by code. -/
def codeLength? : Char → Option Nat
  | 'x' => some 2
  | 'u' => some 4
  | 'U' => some 8
  | _ => none

/-- The character of an escape, and what follows it. -/
def readEscape (c : Cursor) : Option (Char × Cursor) := do
  let kind ← c.ahead? 1
  let c := c.skipN 2
  match escape? kind, codeLength? kind with
  | some x, _ => return (x, c)
  | none, some count =>
    let n ← hexValue? count 0 c.rest
    guard n.isValidChar
    return (Char.ofNat n, c.skipN count)
  | none, none => none

/-- Text up to a blank, a line break or the closing quote, and whether an escaped line break ended
it. -/
def readWord (single : Bool) : Nat → List Char → Cursor → Option (List Char × Bool × Cursor)
  | 0, _, _ => none
  | fuel + 1, text, c =>
    match c.head? with
    | none => some (text, false, c)
    | some x =>
      if isBlank x || isBreak x then some (text, false, c)
      else if single && x = '\'' then
        if c.ahead? 1 = some '\'' then readWord single fuel (text ++ [x]) (c.skipN 2)
        else some (text, false, c)
      else if !single && x = '"' then some (text, false, c)
      else if !single && x = '\\' then
        if (c.ahead? 1).any isBreak then some (text, true, c.skip.skipBreak)
        else do
          let (y, c) ← readEscape c
          readWord single fuel (text ++ [y]) c
      else readWord single fuel (text ++ [x]) c.skip

/-- The text of a quoted scalar after its opening quote, and what follows its closing quote. -/
def read (single : Bool) : Nat → List Char → Cursor → Option (List Char × Cursor)
  | 0, _, _ => none
  | fuel + 1, text, c => do
    guard !c.atDocumentBoundary
    guard !c.isAtEnd
    let (text, escaped, c) ← readWord single (c.rest.length + 1) text c
    if c.isAt (if single then '\'' else '"') then return (text, c.skip)
    let blank : Gap := { Gap.empty with broken := escaped }
    let (gap, c) ← Gap.read (fun _ => false) (c.rest.length + 1) blank c
    read single fuel (text ++ gap.fold) c

end Quoted

namespace Plain

def isFlowMark (c : Char) : Bool := c == ',' || c == '[' || c == ']' || c == '\x7b' || c == '\x7d'

/-- Text up to a blank, a line break or a mark that ends it. -/
def readWord (inFlow : Bool) : Nat → List Char → Cursor → Option (List Char × Cursor)
  | 0, _, _ => none
  | fuel + 1, text, c =>
    match c.head? with
    | none => some (text, c)
    | some x =>
      if isBlank x || isBreak x then some (text, c)
      else if x = ':' && inFlow && (c.ahead? 1).any fun y => isFlowMark y || y == '?' then none
      else if (x = ':' && c.isSeparated 1) || (inFlow && isFlowMark x) then some (text, c)
      else readWord inFlow fuel (text ++ [x]) c.skip

/-- The text of a plain scalar, whether a line break follows it, and what comes then. Lines that
continue it are indented by more than `indent`, in block style; tabs do not count. -/
def read (inFlow : Bool) (indent : Int) :
    Nat → List Char → Gap → Cursor → Option (List Char × Bool × Cursor)
  | 0, _, _, _ => none
  | fuel + 1, text, gap, c => do
    if c.atDocumentBoundary || c.isAt '#' then return (text, gap.broken, c)
    let (word, c) ← readWord inFlow (c.rest.length + 1) [] c
    let text := if word.isEmpty then text else text ++ gap.fold ++ word
    let gap := if word.isEmpty then gap else Gap.empty
    if !(c.atBlank || c.atBreak) then return (text, gap.broken, c)
    let refuse (c : Cursor) : Bool := c.isAt '\t' && (c.column : Int) ≤ indent
    let (gap, c) ← Gap.read refuse (c.rest.length + 1) gap c
    if !inFlow && (c.column : Int) ≤ indent then return (text, gap.broken, c)
    read inFlow indent fuel text gap c

end Plain

end Companion.Yaml

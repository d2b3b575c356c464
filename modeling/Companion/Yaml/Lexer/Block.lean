import Companion.Yaml.Lexer.Cursor

/-! Scalars in block style. -/

set_option autoImplicit false

namespace Companion.Yaml.Block

/-- What becomes of the line breaks at the end. -/
inductive Chomping where
  | clip
  | strip
  | keep
  deriving DecidableEq, Repr

/-- What stands behind the indicator: chomping and the count of indentation, in either order. -/
structure Header where
  chomping : Chomping
  increment : Option Nat

def chomping? : Option Char → Option Chomping
  | some '+' => some .keep
  | some '-' => some .strip
  | _ => none

/-- A digit that counts indentation, which is none if there is no digit. Zero is an error. -/
def readIncrement (c : Cursor) : Option (Option Nat × Cursor) :=
  match c.head? with
  | some d =>
    if d.isDigit then (if d = '0' then none else some (some (d.toNat - 48), c.skip))
    else some (none, c)
  | none => some (none, c)

def readHeader (c : Cursor) : Option (Header × Cursor) := do
  match chomping? c.head? with
  | some chomping =>
    let (increment, c) ← readIncrement c.skip
    return (⟨chomping, increment⟩, c)
  | none =>
    let (increment, c) ← readIncrement c
    match increment, chomping? c.head? with
    | some _, some chomping => return (⟨chomping, increment⟩, c.skip)
    | _, _ => return (⟨.clip, increment⟩, c)

/-- Line breaks and the widest indentation before a line that is not empty, on which no tab stands
within the indentation. An indentation of zero is not known yet. -/
def readBreaks (indent : Nat) : Nat → List Char → Nat → Cursor → Option (List Char × Nat × Cursor)
  | 0, _, _, _ => none
  | fuel + 1, breaks, widest, c =>
    let spaces := c.rest.takeWhile (· == ' ')
    let c := c.skipN (if indent = 0 then spaces.length else min spaces.length (indent - c.column))
    let widest := max widest c.column
    if (indent = 0 || c.column < indent) && c.isAt '\t' then none
    else if c.atBreak then
      let (text, c) := c.takeBreak
      readBreaks indent fuel (breaks ++ text) widest c
    else some (breaks, widest, c)

/-- The lines of a scalar that is indented by `indent`: the text so far, the break at the end of
its last line, the breaks after that, and whether that line starts with a blank. -/
def readLines (folded : Bool) (indent : Nat) :
    Nat → List Char → List Char → List Char → Bool → Cursor →
      Option (List Char × List Char × List Char × Cursor)
  | 0, _, _, _, _, _ => none
  | fuel + 1, text, last, breaks, startedBlank, c => do
    if c.column ≠ indent || c.isAtEnd then return (text, last, breaks, c)
    let startsBlank := c.atBlank
    let joint := if folded && last = ['\n'] && !startedBlank && !startsBlank then
        (if breaks.isEmpty then [' '] else [])
      else last
    let (line, c) := c.takeWhile fun x => !isBreak x
    let (last, c) := c.takeBreak
    let text := text ++ joint ++ breaks ++ line
    let (breaks, _, c) ← readBreaks indent (c.rest.length + 1) [] 0 c
    readLines folded indent fuel text last breaks startsBlank c

/-- A scalar after its indicator, inside an indentation. -/
def read (folded : Bool) (outer : Int) (c : Cursor) : Option (List Char × Cursor) := do
  let (header, c) ← readHeader c
  let c := c.skipComment
  guard c.atLineEnd
  let c := c.skipBreak
  let given := (header.increment.map fun n => (max outer 0).toNat + n).getD 0
  let (breaks, widest, c) ← readBreaks given (c.rest.length + 1) [] 0 c
  let indent := if given = 0 then max (max widest (outer + 1).toNat) 1 else given
  let (text, last, breaks, c) ←
    readLines folded indent (c.rest.length + 1) [] [] breaks false c
  match header.chomping with
  | .strip => return (text, c)
  | .clip => return (text ++ last, c)
  | .keep => return (text ++ last ++ breaks, c)

end Companion.Yaml.Block

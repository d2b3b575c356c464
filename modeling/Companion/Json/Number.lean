import Companion.Decimal.Layout
import Companion.Decimal.Word
import Companion.Json.Basic

/-! Numbers in JSON.

Floats are read from the first digits that fit into 64 bits, scaled by a power of ten with one
rounding for each step, so that the last bit may differ from that of the nearest float.
-/

set_option autoImplicit false

namespace Companion.Json

open Decimal (digit? isDigit)

/-- A decimal significand that fits into 64 bits, scaled. -/
structure Scaled where
  significand : Nat
  exponent : Int

/-- Take digits while they fit, from the left. -/
def takeFitting : Nat → List Char → Nat × List Char
  | n, [] => (n, [])
  | n, c :: rest =>
    match digit? c with
    | some d =>
      if Word.fitsUnsigned 64 (10 * n + d) then takeFitting (10 * n + d) rest else (n, c :: rest)
    | none => (n, c :: rest)

/-- A power of ten as the nearest float. -/
def powerOfTen (n : Nat) : Float := Float.ofScientific 1 false n

/-- Scale in steps that floats can hold. Zero stays zero, and what is too large is no number. -/
def scale (fuel : Nat) (x : Float) (exponent : Int) : Option Float :=
  match fuel with
  | 0 => some x
  | fuel + 1 =>
    if exponent.natAbs ≤ 308 then
      if 0 ≤ exponent then
        let y := x * powerOfTen exponent.toNat
        if Decimal.isFinite y then some y else none
      else some (x / powerOfTen exponent.natAbs)
    else if x == 0.0 then some x
    else if 0 ≤ exponent then none
    else scale fuel (x / powerOfTen 308) (exponent + 308)

/-- Steps after which any significand has become zero. -/
def scaleSteps : Nat := 8

def Scaled.toFloat? (s : Scaled) : Option Float :=
  scale scaleSteps (Float.ofNat s.significand) s.exponent

/-- The digits of an exponent, and whether they say more than 31 bits do. -/
def readExponent (cs : List Char) : Option (Bool × Option Nat × List Char) := do
  let (negative, cs) := match cs with
    | '+' :: rest => (false, rest)
    | '-' :: rest => (true, rest)
    | _ => (false, cs)
  let digits := cs.takeWhile isDigit
  guard !digits.isEmpty
  let n := Decimal.valueOf digits
  return (negative, if Word.fitsUnsigned 31 n then some n else none, cs.dropWhile isDigit)

/-- An exponent if there is one, applied. -/
def finishFloat (s : Scaled) (cs : List Char) : Option (Float × List Char) :=
  match cs with
  | e :: rest =>
    if e = 'e' ∨ e = 'E' then do
      let (negative, n, rest) ← readExponent rest
      match n with
      | some n =>
        let exponent := if negative then s.exponent - n else s.exponent + n
        return (← { s with exponent }.toFloat?, rest)
      | none =>
        guard (s.significand = 0 || negative)
        return (0.0, rest)
    else return (← s.toFloat?, cs)
  | [] => return (← s.toFloat?, cs)

/-- A fraction if there is one, and an exponent. -/
def finishDecimal (s : Scaled) (cs : List Char) : Option (Float × List Char) :=
  match cs with
  | '.' :: rest => do
    let digits := rest.takeWhile isDigit
    guard !digits.isEmpty
    let (n, unread) := takeFitting s.significand digits
    finishFloat ⟨n, s.exponent - (digits.length - unread.length : Nat)⟩ (rest.dropWhile isDigit)
  | _ => finishFloat s cs

/-- Whether a fraction or an exponent follows. -/
def isFloatTail : List Char → Bool
  | c :: _ => c == '.' || c == 'e' || c == 'E'
  | [] => false

/-- A number and what follows it. A negative zero is a float, as is an integer that does not fit
into 64 bits. -/
def readNumber (cs : List Char) : Option (Json × List Char) := do
  let (negative, cs) := match cs with
    | '-' :: rest => (true, rest)
    | _ => (false, cs)
  let digits := cs.takeWhile isDigit
  let rest := cs.dropWhile isDigit
  guard !digits.isEmpty
  guard (digits.head? ≠ some '0' || digits.length = 1)
  let (n, unread) := takeFitting 0 digits
  let signed (x : Float) := if negative then -x else x
  if isFloatTail rest || !unread.isEmpty then
    let (x, rest) ← finishDecimal ⟨n, unread.length⟩ rest
    return (.float (signed x), rest)
  else if negative then
    if n = 0 || !Word.fitsSigned 64 (-n) then return (.float (signed (Float.ofNat n)), rest)
    else return (.integer (-n), rest)
  else return (.integer n, rest)

end Companion.Json

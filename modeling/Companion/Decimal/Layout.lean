import Companion.Decimal.Shortest

/-! How floats are written: in source code, and in JSON. -/

set_option autoImplicit false

namespace Companion.Decimal

/-- Conventions for the text of a float. -/
structure Layout where
  tie : Tie
  /-- Decimal exponents of the first digit that are written without an exponent. -/
  firstPositional : Int
  lastPositional : Int
  plus : Bool
  /-- Least number of digits of an exponent. -/
  exponentWidth : Nat

/-- Source code: positional from `1e-4` up to `1e16`. -/
def Layout.source : Layout := ⟨.up, -4, 15, false, 1⟩

/-- JSON: positional from `1e-5` up to `1e16`, with the sign of every exponent. -/
def Layout.json : Layout := ⟨.even, -5, 15, true, 2⟩

namespace Layout

def zeros (count : Nat) : String := String.ofList (List.replicate count '0')

/-- Digits without an exponent; a whole number ends in `.0`. -/
def positional (digits : String) (point : Int) : String :=
  if point ≤ 0 then "0." ++ zeros (-point).toNat ++ digits
  else if digits.length ≤ point.toNat then digits ++ zeros (point.toNat - digits.length) ++ ".0"
  else
    let cs := digits.toList
    String.ofList (cs.take point.toNat) ++ "." ++ String.ofList (cs.drop point.toNat)

/-- Digits with a point after the first, and an exponent. -/
def exponential (layout : Layout) (digits : String) (exponent : Int) : String :=
  let fraction := match digits.toList with
    | first :: second :: rest => String.ofList (first :: '.' :: second :: rest)
    | _ => digits
  let size := toString exponent.natAbs
  let sign := if exponent < 0 then "-" else if layout.plus then "+" else ""
  fraction ++ "e" ++ sign ++ zeros (layout.exponentWidth - size.length) ++ size

/-- The text of a positive number. -/
def magnitude (layout : Layout) (b : Binary) : String :=
  let s := b.shortest layout.tie
  let digits := toString s.digits
  let first := s.exponent + digits.length - 1
  if layout.firstPositional ≤ first ∧ first ≤ layout.lastPositional then
    positional digits (first + 1)
  else layout.exponential digits first

def write (layout : Layout) (x : Float) : String :=
  let signed (negative : Bool) (text : String) := if negative then "-" ++ text else text
  match decode x with
  | .notANumber => "NaN"
  | .infinite negative => signed negative "inf"
  | .zero negative => signed negative "0.0"
  | .finite negative b => signed negative (layout.magnitude b)

end Layout

/-- The text of a float in source code. -/
def sourceText (x : Float) : String := Layout.source.write x

/-- The text of a finite float in JSON. -/
def jsonText (x : Float) : String := Layout.json.write x

def isFinite (x : Float) : Bool :=
  match decode x with
  | .notANumber | .infinite _ => false
  | _ => true

end Companion.Decimal

/-! ### Reading floats and integers from decimal text -/

namespace Companion.Decimal

def digit? (c : Char) : Option Nat :=
  if '0' ≤ c ∧ c ≤ '9' then some (c.toNat - 48) else none

/-- The value of a digit string. -/
def valueOf (digits : List Char) : Nat :=
  digits.foldl (fun n c => 10 * n + (digit? c).getD 0) 0

def isDigit (c : Char) : Bool := (digit? c).isSome

/-- Digits, with a sign if any; no digits are no number. -/
def signedDigits? (cs : List Char) : Option Int :=
  let (negative, digits) := match cs with
    | '-' :: rest => (true, rest)
    | '+' :: rest => (false, rest)
    | _ => (false, cs)
  if digits.isEmpty || !digits.all isDigit then none
  else
    let n : Int := valueOf digits
    some (if negative then -n else n)

/-- The float nearest to `digits · 10 ^ exponent`. An exponent out of reach of all digits gives
zero or infinity at once. -/
def nearest (digits : Nat) (exponent : Int) : Float :=
  if digits = 0 then 0.0
  else
    let size : Int := exponent + (toString digits).length
    if 310 < size then 1.0 / 0.0
    else if size < -326 then 0.0
    else if exponent < 0 then Float.ofScientific digits true (-exponent).toNat
    else Float.ofScientific digits false exponent.toNat

/-- A number without a sign: digits with a point, and an exponent. -/
def unsigned? (cs : List Char) : Option Float :=
  let whole := cs.takeWhile isDigit
  let (fraction, rest) := match cs.dropWhile isDigit with
    | '.' :: rest => (rest.takeWhile isDigit, rest.dropWhile isDigit)
    | rest => ([], rest)
  if whole.isEmpty && fraction.isEmpty then none
  else
    let exponent := match rest with
      | [] => some 0
      | e :: rest => if e = 'e' ∨ e = 'E' then signedDigits? rest else none
    exponent.map fun e => nearest (valueOf (whole ++ fraction)) (e - fraction.length)

/-- A float in decimal notation, or the name of an infinity or of no number. -/
def float? (text : String) : Option Float :=
  let (negative, cs) := match text.toList with
    | '-' :: rest => (true, rest)
    | '+' :: rest => (false, rest)
    | cs => (false, cs)
  let magnitude := match String.ofList (cs.map Char.toLower) with
    | "inf" | "infinity" => some (1.0 / 0.0)
    | "nan" => some (0.0 / 0.0)
    | _ => unsigned? cs
  magnitude.map fun x => if negative then -x else x

end Companion.Decimal

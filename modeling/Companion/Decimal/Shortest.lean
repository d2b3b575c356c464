import Companion.Decimal.Word

/-! The shortest decimal that reads back as a given binary number.

A finite float is `m · 2 ^ q`. The reals that round to it form an interval, closed if `m` is even;
of the decimals in that interval with the fewest digits the nearest is taken.
-/

set_option autoImplicit false

namespace Companion.Decimal

/-- A positive decimal number `digits · 10 ^ exponent`. -/
structure Scientific where
  digits : Nat
  exponent : Int
  deriving DecidableEq, Repr, Inhabited

/-- A positive binary number `significand · 2 ^ exponent`. It is `isEdge` if the float below it is
half as far away as the float above. -/
structure Binary where
  significand : Nat
  exponent : Int
  isEdge : Bool
  deriving DecidableEq, Repr, Inhabited

/-- What becomes of a number halfway between two decimals of the same length. -/
inductive Tie where
  | even
  | up
  deriving DecidableEq, Repr

namespace Binary

/-- The number, and the ends of its interval, as multiples of a quarter of its last bit. -/
def quarters (b : Binary) : Nat := 4 * b.significand

def low (b : Binary) : Nat := b.quarters - (if b.isEdge then 1 else 2)

def high (b : Binary) : Nat := b.quarters + 2

/-- Numerator and denominator of `2 ^ (exponent - 2)` over `10 ^ e`. -/
def scale (b : Binary) (e : Int) : Nat × Nat :=
  let q := b.exponent - 2
  (Nat.pow 2 q.toNat * Nat.pow 10 (-e).toNat, Nat.pow 2 (-q).toNat * Nat.pow 10 e.toNat)

/-- Whether `d · 10 ^ e` rounds to the number. -/
def covers (b : Binary) (scale : Nat × Nat) (d : Nat) : Bool :=
  let (num, den) := scale
  let x := d * den
  if b.significand % 2 = 0 then b.low * num ≤ x && x ≤ b.high * num
  else b.low * num < x && x < b.high * num

/-- The decimal nearest to the number among the multiples of `10 ^ e` in its interval. -/
def onGrid? (b : Binary) (tie : Tie) (e : Int) : Option Scientific :=
  let (num, den) := b.scale e
  let x := b.quarters * num
  let below := x / den
  let remainder := x % den
  match b.covers (num, den) below && 0 < below, b.covers (num, den) (below + 1) with
  | true, true =>
    let goUp := den < 2 * remainder ||
      (den = 2 * remainder && (tie = .up || below % 2 == 1))
    some ⟨if goUp then below + 1 else below, e⟩
  | true, false => some ⟨below, e⟩
  | false, true => some ⟨below + 1, e⟩
  | false, false => none

/-- The decimal with at most `count` digits, then with more, down to the grid `10 ^ e`. -/
def searchFrom (b : Binary) (tie : Tie) : Nat → Int → Option Scientific
  | 0, _ => none
  | count + 1, e => (b.onGrid? tie e).or (b.searchFrom tie count (e - 1))

/-- An exponent whose power of ten is not below the number. -/
def topExponent (b : Binary) : Int :=
  let bits : Int := b.exponent + Int.ofNat (b.significand.log2 + 1)
  if 0 ≤ bits then bits * 30103 / 100000 + 1 else bits * 30102 / 100000 + 1

/-- Strip trailing zeros of the digits, of which there are at most `fuel`. -/
def stripZeros : Nat → Scientific → Scientific
  | 0, s => s
  | fuel + 1, s =>
    if s.digits % 10 = 0 ∧ s.digits ≠ 0 then stripZeros fuel ⟨s.digits / 10, s.exponent + 1⟩ else s

/-- The shortest decimal that rounds to the number; 20 digits more than suffice. -/
def shortest (b : Binary) (tie : Tie) : Scientific :=
  stripZeros 20 ((b.searchFrom tie 22 b.topExponent).getD ⟨0, 0⟩)

end Binary

/-- Sign and size of a float. -/
inductive Decoded where
  | notANumber
  | infinite (negative : Bool)
  | zero (negative : Bool)
  | finite (negative : Bool) (magnitude : Binary)
  deriving DecidableEq, Repr

/-- The parts of a binary64 number. -/
def decode (x : Float) : Decoded :=
  let bits := x.toBits.toNat
  let negative := bits / Word.count 63 = 1
  let biased : Nat := bits / Word.count 52 % Word.count 11
  let fraction : Nat := bits % Word.count 52
  if biased = 2047 then if fraction = 0 then .infinite negative else .notANumber
  else if biased = 0 then
    if fraction = 0 then .zero negative else .finite negative ⟨fraction, -1074, false⟩
  else
    .finite negative
      ⟨Word.count 52 + fraction, (biased : Int) - 1075, fraction = 0 && 1 < biased⟩

end Companion.Decimal

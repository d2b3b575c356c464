import Companion.Code.Lexer

/-! The value of an integer literal. -/

set_option autoImplicit false

namespace Companion.Code.Number

open Lexer (hexValue? isDecimal)

/-- Whether the text after a decimal digit string and an `e` is an exponent, so that the
literal is no integer: digits, with a suffix that is an identifier if any. -/
def isExponent : Bool → List Char → Bool
  | digits, [] => digits
  | digits, c :: rest =>
    if c = '_' then isExponent digits rest
    else if c = '+' ∨ c = '-' then true
    else if isDecimal c then isExponent true rest
    else digits && Unicode.isIdentifierStart c

/-- Read digits up to a suffix. Fails on a digit outside the base and on a literal that is no
integer; `some` counts the value of the digits read so far. -/
def digitsFrom (base : Nat) : Option Nat → List Char → Option (Nat × List Char)
  | value, [] => value.map fun n => (n, [])
  | value, c :: rest =>
    if c = '_' then digitsFrom base value rest
    else if base = 10 ∧ c = '.' then none
    else if base = 10 ∧ (c = 'e' ∨ c = 'E') then
      if isExponent false rest then none else value.map fun n => (n, c :: rest)
    else
      match hexValue? c with
      | some d =>
        if d < base then digitsFrom base (some (base * value.getD 0 + d)) rest
        else if isDecimal c then none
        else value.map fun n => (n, c :: rest)
      | none => value.map fun n => (n, c :: rest)

/-- Value and suffix of an integer literal. -/
def integer? (text : String) : Option (Nat × String) :=
  let read := match text.toList with
    | '0' :: 'x' :: rest => digitsFrom 16 none rest
    | '0' :: 'o' :: rest => digitsFrom 8 none rest
    | '0' :: 'b' :: rest => digitsFrom 2 none rest
    | c :: rest => if isDecimal c then digitsFrom 10 none (c :: rest) else none
    | [] => none
  read.map fun (value, suffix) => (value, String.ofList suffix)

/-- The value in decimal digits, without the suffix. -/
def integerDigits? (text : String) : Option String :=
  (integer? text).map fun (value, _) => toString value

end Companion.Code.Number

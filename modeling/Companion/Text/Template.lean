import Companion.Text.Basic

/-! Message templates: `$` is a hole and `$$` a literal dollar sign.

A template is filled directly, or turned into a format string whose holes are `{:?}`.
-/

set_option autoImplicit false

namespace Companion.Template

/-- Fill the holes left to right. A hole without an argument stays a dollar sign; an argument
without a hole is dropped. -/
def fill : List Char → List (List Char) → List Char
  | [], _ => []
  | '$' :: '$' :: rest, args => '$' :: fill rest args
  | '$' :: rest, [] => '$' :: fill rest []
  | '$' :: rest, arg :: args => arg ++ fill rest args
  | c :: rest, args => c :: fill rest args

/-- Double the dollar signs, so that filling gives the text back. -/
def escapeChars : List Char → List Char
  | [] => []
  | '$' :: rest => '$' :: '$' :: escapeChars rest
  | c :: rest => c :: escapeChars rest

/-- Number of holes. -/
def holesIn : List Char → Nat
  | [] => 0
  | '$' :: '$' :: rest => holesIn rest
  | '$' :: rest => holesIn rest + 1
  | _ :: rest => holesIn rest

/-- A format string writes a hole as `{:?}` and doubles the braces of the text. -/
def formatChars : List Char → List Char
  | [] => []
  | '{' :: rest => '{' :: '{' :: formatChars rest
  | '}' :: rest => '}' :: '}' :: formatChars rest
  | '$' :: '$' :: rest => '$' :: formatChars rest
  | '$' :: rest => '{' :: ':' :: '?' :: '}' :: formatChars rest
  | c :: rest => c :: formatChars rest

/-- The template with its holes filled. -/
def substitute (template : String) (args : List String) : String :=
  String.ofList (fill template.toList (args.map String.toList))

/-- A template that reads as the text itself. -/
def escape (text : String) : String := Text.onChars escapeChars text

def holes (template : String) : Nat := holesIn template.toList

def toFormat (template : String) : String := Text.onChars formatChars template

end Companion.Template

import Companion.Text.Basic

/-! String literals of generated code.

Text with quotes or backslashes becomes a raw literal, so that a pattern reads the same in the
code as in its declaration.
-/

set_option autoImplicit false

namespace Companion.Code.StringLiteral

/-- Length of the longest run of hashes that follows a quote. -/
def longestRun : List Char → Nat
  | [] => 0
  | c :: rest =>
    if c = '"' then max (rest.takeWhile (· = '#')).length (longestRun rest) else longestRun rest

/-- A line feed is the one character that a cooked literal escapes. -/
def escapeLineFeed (c : Char) : List Char := if c = '\n' then ['\\', 'n'] else [c]

def write (cs : List Char) : List Char :=
  if cs.contains '\\' || cs.contains '"' then
    let hashes := List.replicate (longestRun cs + 1) '#'
    'r' :: hashes ++ '"' :: cs ++ '"' :: hashes
  else '"' :: cs.flatMap escapeLineFeed ++ ['"']

end Companion.Code.StringLiteral

namespace Companion.Code

/-- The literal of a text. -/
def stringLiteral (text : String) : String := Text.onChars StringLiteral.write text

end Companion.Code

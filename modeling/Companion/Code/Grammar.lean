import Companion.Code.Grammar.Items
import Companion.Code.Lexer

/-! The grammar of Rust, closed over its levels, and the forms that declarations may hold. -/

set_option autoImplicit false

namespace Companion.Code

namespace Grammar

/-- The productions over those one level down. -/
def next (g : Grammar) : Grammar where
  type := g.readType
  bound := g.readBound
  expr := g.readExpr
  unary := g.readUnary
  operators := g.readOperators
  statementExpr := g.readStatementExpr
  pattern := g.readPattern
  statements := g.readStatements
  item := g.readItem
  field := g.readField
  useTree := g.readUseTree

/-- Productions that may nest to the given depth. -/
def level : Nat → Grammar
  | 0 => empty
  | depth + 1 => (level depth).next

end Grammar

/-- A production calls at most two others before it reads a token, so the number of tokens bounds
the depth at which it can use them. -/
def Grammar.covering (tokens : List Token) : Grammar := .level (3 * tokens.length + 8)

/-- Read all of a text by a production of the grammar. -/
def parse? {α : Type} (production : Grammar → Reader α) (text : String) : Option α := do
  let tokens ← Lexer.tokens text.toList
  let trees ← Tree.ofTokens tokens
  Reader.all? (production (.covering tokens)) trees

def TypeExpr.parse? (text : String) : Option TypeExpr := Code.parse? (·.type true) text

def isExpr (text : String) : Bool := (parse? (·.expr true) text).isSome

/-- Whether the text is a block in braces. -/
def isBlock (text : String) : Bool := (parse? Grammar.block text).isSome

/-- Whether the text is one identifier that is no reserved word. -/
def isIdent (text : String) : Bool := (parse? (fun _ => Reader.ident) text).isSome

/-- A first line that names an interpreter is no part of the file, unless it is an attribute. -/
def withoutInterpreter (cs : List Char) : List Char :=
  match cs with
  | '#' :: '!' :: rest =>
    match Lexer.afterSpace rest with
    | '[' :: _ => cs
    | _ => cs.dropWhile (· ≠ '\n')
  | _ => cs

/-- A byte order mark is no part of the text. -/
def withoutMark (cs : List Char) : List Char :=
  match cs with
  | c :: rest => if c.toNat = 0xFEFF then rest else cs
  | [] => []

/-- Whether the text is a file of items. -/
def isFile (text : String) : Bool :=
  let file (g : Grammar) : Reader Unit := do
    g.innerAttributes
    Reader.toEnd g.item
  (parse? file (String.ofList (withoutInterpreter (withoutMark text.toList)))).isSome

end Companion.Code

/-! ### Finished units -/

namespace Companion.Code

/-- A unit is written only if it is a source file. -/
def checkedUnit? (code : String) : Option String := if isFile code then some code else none

/-- The unit below comment lines, set off by an empty line. -/
def withHeader (lines : List String) (code : String) : String :=
  if lines.isEmpty then code
  else String.join (lines.map fun line => Text.trimEnd ("// " ++ line) ++ "\n") ++ "\n" ++ code

end Companion.Code

import Companion.Code.Cursor
import Companion.Code.TypeExpr

/-! The open form of the grammar: each production refers to the others through a record.

A production is written once, over the record of the productions one level down. The levels are
tied together at the end, by recursion on the depth of nesting.
-/

set_option autoImplicit false

namespace Companion.Code

/-- What the grammar asks of an expression after it has read it. -/
inductive ExprKind where
  | literal (text : String)
  | comparison
  | range
  | macroCall (delimiter : Delimiter)
  /-- A block, or a conditional, loop or match: it may stand as a statement by itself. -/
  | block
  | other
  deriving DecidableEq, Repr, Inhabited

structure Expr where
  kind : ExprKind
  /-- Whether the expression ends in a closing brace. -/
  endsInBrace : Bool
  deriving DecidableEq, Repr, Inhabited

/-- Binding strengths of operators, from weak to strong. -/
inductive Precedence where
  | lowest
  | assign
  | range
  | or
  | and
  | compare
  | bitOr
  | bitXor
  | bitAnd
  | shift
  | sum
  | product
  | cast
  deriving DecidableEq, Repr

def Precedence.rank : Precedence → Nat
  | .lowest => 0
  | .assign => 1
  | .range => 2
  | .or => 3
  | .and => 4
  | .compare => 5
  | .bitOr => 6
  | .bitXor => 7
  | .bitAnd => 8
  | .shift => 9
  | .sum => 10
  | .product => 11
  | .cast => 12

/-- What patterns are told apart by. -/
inductive PatternKind where
  | rest
  /-- A range that lacks one of its ends. -/
  | halfOpenRange
  | other
  deriving DecidableEq, Repr, Inhabited

/-- What a bound may be in its place. -/
structure BoundForms where
  /-- A list of captured lifetimes. -/
  capture : Bool
  /-- A trait that holds in constant contexts. -/
  const : Bool

/-- The recursive productions. -/
structure Grammar where
  /-- A type; a sum of bounds only if `plus`. -/
  type : (plus : Bool) → Reader TypeExpr
  bound : BoundForms → Reader Bound
  /-- An expression; a struct literal at its end only if `struct`. -/
  expr : (struct : Bool) → Reader Expr
  /-- An operand, with its prefix operators. -/
  unary : (struct : Bool) → Reader Expr
  /-- The operators, not weaker than the given one, that follow an operand. -/
  operators : (struct : Bool) → Precedence → Expr → Reader Expr
  /-- An expression that ends after a closing brace if it may. -/
  statementExpr : Reader Expr
  /-- A pattern without alternatives. -/
  pattern : Reader PatternKind
  /-- Statements up to the end of a block. -/
  statements : Reader Unit
  item : Reader Unit
  /-- A field of a struct or union, in braces. -/
  field : Reader Unit
  /-- An imported path; two colons may lead it inside braces only if `rooted`. -/
  useTree : (rooted : Bool) → Reader Unit

/-- The grammar that reads nothing. -/
def Grammar.empty : Grammar where
  type _ := failure
  bound _ := failure
  expr _ := failure
  unary _ := failure
  operators _ _ _ := failure
  statementExpr := failure
  pattern := failure
  statements := failure
  item := failure
  field := failure
  useTree _ := failure

end Companion.Code

/-! ### Attributes, and the paths and macro calls that hold no types -/

namespace Companion.Code

open Reader

/-- A name in a path; the words that start a path count. -/
def pathWord : Reader String := do
  expect fun ts => Tree.atIdent ts || Tree.atWord "super" ts || Tree.atWord "self" ts ||
    Tree.atWord "Self" ts || Tree.atWord "crate" ts
  anyWord

/-- A path without arguments. -/
def plainPath : Reader Unit := do
  let _ ← operator? "::"
  repeatWhile do
    let _ ← pathWord
    operator? "::"

namespace Grammar

variable (g : Grammar)

/-- What an attribute says: a path, with a group or a value after it. No attribute belongs to
the value. -/
def attributeBody : Reader Unit := do
  if ← word? "unsafe" then pure () else plainPath
  if ← peek fun ts => Tree.atGroup .parenthesis ts || Tree.atGroup .bracket ts ||
      Tree.atGroup .brace ts then
    let _ ← anyGroup
  else if ← operator? "=" then
    expect fun ts => !(Tree.atOperator "#" ts && Tree.atGroup .bracket (Tree.skip ts))
    let _ ← g.expr true

/-- Attributes of what follows. -/
def outerAttributes : Reader Nat :=
  loop (fun count => do
    if ← operator? "#" then
      within .bracket (attributeBody g)
      return (true, count + 1)
    else return (false, count)) 0

/-- Attributes of what holds them. -/
def innerAttributes : Reader Unit := repeatWhile do
  if ← peek fun ts => Tree.atOperator "#" ts && Tree.atOperator "!" (Tree.skip ts) then
    operator "#"
    operator "!"
    within .bracket (attributeBody g)
    return true
  else return false

end Grammar

end Companion.Code

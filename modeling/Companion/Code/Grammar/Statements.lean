import Companion.Code.Grammar.Expressions

/-! Statements of a block. -/

set_option autoImplicit false

namespace Companion.Code

open Reader

/-- What may follow `const` or `static` when they begin a closure or block. -/
def atConstExpr (ts : List Tree) : Bool :=
  let next := Tree.skip ts
  Tree.atGroup .brace ts || Tree.atWord "static" ts ||
    (Tree.atWord "async" ts && !(Tree.atWord "unsafe" next || Tree.atWord "extern" next ||
      Tree.atWord "fn" next)) ||
    Tree.atWord "move" ts || Tree.atOperator "|" ts

/-- What begins an item among statements. -/
def atItem (ts : List Tree) : Bool :=
  let next := Tree.skip ts
  let third := Tree.skip next
  ["pub", "extern", "use", "fn", "mod", "type", "struct", "enum", "trait", "impl", "macro"].any
      (fun word => Tree.atWord word ts) ||
    (Tree.atWord "crate" ts && !Tree.atOperator "::" next) ||
    (Tree.atWord "static" ts && (Tree.atWord "mut" next || (Tree.atIdent next &&
      !(Tree.atWord "async" next && (Tree.atWord "move" third || Tree.atOperator "|" third))))) ||
    (Tree.atWord "const" ts && !atConstExpr next) ||
    (Tree.atWord "unsafe" ts && !Tree.atGroup .brace next) ||
    (Tree.atWord "async" ts && (Tree.atWord "unsafe" next || Tree.atWord "extern" next ||
      Tree.atWord "fn" next)) ||
    (Tree.atWord "union" ts && Tree.atIdent next) ||
    (Tree.atWord "auto" ts && Tree.atWord "trait" next) ||
    (Tree.atWord "default" ts && (Tree.atWord "unsafe" next || Tree.atWord "impl" next))

/-- How a macro call at the start of a statement reads. -/
inductive MacroPlace where
  | item
  | statement
  | none

/-- A macro call with a name is an item; one with braces is a statement, unless a point or
question mark makes it an operand. -/
def macroPlace (ts : List Tree) : MacroPlace :=
  match plainPath.run ts with
  | some (_, after) =>
    let next := Tree.skip after
    let third := Tree.skip next
    if !Tree.atOperator "!" after then .none
    else if Tree.atIdent next || Tree.atWord "try" next then .item
    else if Tree.atGroup .brace next && !(atPoint third || Tree.atOperator "?" third) then
      .statement
    else .none
  | none => .none

namespace Grammar

variable (g : Grammar)

def localBinding : Reader Unit := do
  word "let"
  let _ ← g.pattern
  if ← operator? ":" then
    let _ ← g.type true
  if ← operator? "=" then
    let value ← g.expr true
    if !value.endsInBrace && (← peek (Tree.atWord "else")) then
      word "else"
      block g
  operator ";"

/-- One statement; tells whether a semicolon is missing if another statement follows. -/
def statement : Reader Bool := do
  let _ ← g.outerAttributes
  let ts ← rest
  match macroPlace ts with
  | .statement =>
    plainPath
    operator "!"
    let _ ← anyGroup
    let _ ← operator? ";"
    return false
  | place =>
    if Tree.atWord "let" ts then
      localBinding g
      return false
    else if atItem ts || place matches .item then
      g.item
      return false
    else
      let e ← g.statementExpr
      let ended ← operator? ";"
      return !(ended || e.kind = .block || e.kind = .macroCall .brace)

/-- Statements up to the end of a block. -/
def readStatements : Reader Unit := repeatWhile do
  repeatWhile (operator? ";")
  if ← atEnd then return false
  let unended ← g.statement
  if ← atEnd then return false
  guard !unended
  return true

end Grammar

end Companion.Code

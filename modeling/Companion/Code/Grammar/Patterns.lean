import Companion.Code.Grammar.Types
import Companion.Decimal.Word

/-! Patterns. -/

set_option autoImplicit false

namespace Companion.Code

open Reader

/-- The sign of a range; tells whether its end belongs to it. Patterns may write that with three
points. -/
def rangeSign (inPattern : Bool) : Reader Bool := do
  if ← operator? "..=" then return true
  if ← peek (Tree.atOperator "...") then
    guard inPattern
    operator "..."
    return true
  operator ".."
  return false

namespace Grammar

variable (g : Grammar)

def constBlock : Reader Unit := do
  word "const"
  within .brace do
    g.innerAttributes
    g.statements

def atBar (ts : List Tree) : Bool :=
  Tree.atOperator "|" ts && !Tree.atOperator "||" ts && !Tree.atOperator "|=" ts

/-- Patterns with bars between them; a bar may precede the first. -/
def alternatives : Reader PatternKind := do
  let led ← operator? "|"
  let first ← g.pattern
  if led || (← peek atBar) then
    repeatWhile do
      if ← peek atBar then
        operator "|"
        let _ ← g.pattern
        return true
      return false
    return .other
  return first

/-- One end of a range in a pattern; tells whether there is one. -/
def rangeEnd : Reader Bool := do
  let ts ← rest
  if ts.isEmpty || Tree.atOperator "|" ts || Tree.atOperator "=" ts ||
      (Tree.atOperator ":" ts && !Tree.atOperator "::" ts) || Tree.atOperator "," ts ||
      Tree.atOperator ";" ts || Tree.atWord "if" ts then
    return false
  if Tree.atLiteral ts then
    let _ ← literal
  else if Tree.atPath ts || Tree.atOperator "<" ts || Tree.atWord "Self" ts then
    let _ ← qualifiedPath g true
  else constBlock g
  return true

/-- The rest of a range in a pattern that has a start. -/
def rangeTail : Reader PatternKind := do
  let closed ← rangeSign true
  let ended ← rangeEnd g
  guard (!closed || ended)
  return if ended then .other else .halfOpenRange

def fieldName : Reader Bool := do
  if ← peek Tree.atIdent then
    let _ ← ident
    return true
  match Number.integer? (← literal) with
  | some (n, "") => guard (Word.fitsUnsigned 32 n); return false
  | _ => failure

/-- A field of a struct pattern. -/
def fieldPattern : Reader Unit := do
  let boxed ← word? "box"
  let byRef ← word? "ref"
  let isMutable ← word? "mut"
  if boxed || byRef || isMutable then
    let _ ← ident
  else
    let named ← fieldName
    if !named || (← peek (Tree.atOperator ":")) then
      operator ":"
      let _ ← g.alternatives

def structPattern : Reader Unit := within .brace <| repeatWhile do
  if ← atEnd then return false
  let _ ← g.outerAttributes
  if ← operator? ".." then return false
  g.fieldPattern
  if ← atEnd then return false
  operator ","
  return true

/-- A pattern that starts with a path. -/
def pathPattern : Reader PatternKind := do
  let (qualified, path) ← qualifiedPath g true
  let ts ← rest
  if !qualified && Tree.atOperator "!" ts && !Tree.atOperator "!=" ts && path.isPlain then
    operator "!"
    let _ ← anyGroup
    return .other
  if Tree.atGroup .brace ts then
    structPattern g
    return .other
  if Tree.atGroup .parenthesis ts then
    let _ ← within .parenthesis (separated "," g.alternatives)
    return .other
  if Tree.atOperator ".." ts then rangeTail g
  else return .other

def atPathPattern (ts : List Tree) : Bool :=
  let next := Tree.skip ts
  (Tree.atIdent ts && (Tree.atOperator "::" next || Tree.atOperator "!" next ||
      Tree.atGroup .brace next || Tree.atGroup .parenthesis next || Tree.atOperator ".." next)) ||
    (Tree.atWord "self" ts && Tree.atOperator "::" next) || Tree.atOperator "::" ts ||
    Tree.atOperator "<" ts || Tree.atWord "Self" ts || Tree.atWord "super" ts ||
    Tree.atWord "crate" ts

/-- A pattern without alternatives. -/
def readPattern : Reader PatternKind := do
  let ts ← rest
  if atPathPattern ts then pathPattern g
  else if Tree.atWord "_" ts then
    word "_"
    return .other
  else if Tree.atWord "box" ts then
    word "box"
    let _ ← g.pattern
    return .other
  else if Tree.atOperator "-" ts || Tree.atLiteral ts || Tree.atWord "const" ts then
    guard (← rangeEnd g)
    if ← peek (Tree.atOperator "..") then rangeTail g else return .other
  else if Tree.atWord "ref" ts || Tree.atWord "mut" ts || Tree.atWord "self" ts ||
      Tree.atIdent ts then
    let _ ← word? "ref"
    let _ ← word? "mut"
    if ← word? "self" then pure () else
      let _ ← ident
    if ← operator? "@" then
      let _ ← g.pattern
    return .other
  else if Tree.atOperator "&" ts then
    operator "&"
    let _ ← word? "mut"
    let _ ← g.pattern
    return .other
  else if Tree.atGroup .parenthesis ts then
    let _ ← within .parenthesis (separated "," g.alternatives)
    return .other
  else if Tree.atGroup .bracket ts then
    let elements ← within .bracket (separated "," g.alternatives)
    guard (!elements.contains .halfOpenRange)
    return .other
  else if Tree.atOperator ".." ts && !Tree.atOperator "..." ts then
    let closed ← rangeSign false
    let ended ← rangeEnd g
    guard (!closed || ended)
    return if ended then .halfOpenRange else .rest
  else failure

end Grammar

end Companion.Code

import Companion.Code.Grammar.Patterns
import Companion.Decimal.Word
import Companion.Text.Basic

/-! Expressions. -/

set_option autoImplicit false

namespace Companion.Code

open Reader

namespace Expr

def plain : Expr := ⟨.other, false⟩

/-- A conditional, loop, match or block. -/
def block : Expr := ⟨.block, true⟩

/-- An expression that ends as another one does. -/
def endingAs (e : Expr) : Expr := ⟨.other, e.endsInBrace⟩

end Expr

/-- Binary operators; of two that begin alike the longer comes first. -/
def binaryOperators : List (String × Precedence) :=
  ["+=", "-=", "*=", "/=", "%=", "^=", "&=", "|=", "<<=", ">>="].map (·, .assign) ++
    [("&&", .and), ("||", .or), ("<<", .shift), (">>", .shift), ("==", .compare),
      ("<=", .compare), ("!=", .compare), (">=", .compare), ("+", .sum), ("-", .sum),
      ("*", .product), ("/", .product), ("%", .product), ("^", .bitXor), ("&", .bitAnd),
      ("|", .bitOr), ("<", .compare), (">", .compare)]

def binaryOperator? (ts : List Tree) : Option (String × Precedence) :=
  binaryOperators.find? fun (text, _) => Tree.atOperator text ts

def atAssign (ts : List Tree) : Bool := Tree.atOperator "=" ts && !Tree.atOperator "=>" ts

/-- A point that is no range. -/
def atPoint (ts : List Tree) : Bool := Tree.atOperator "." ts && !Tree.atOperator ".." ts

/-- How strongly what comes next binds. -/
def nextPrecedence (ts : List Tree) : Precedence :=
  match binaryOperator? ts with
  | some (_, precedence) => precedence
  | none =>
    if atAssign ts then .assign
    else if Tree.atOperator ".." ts then .range
    else if Tree.atWord "as" ts then .cast
    else .lowest

/-- What may begin an expression. -/
def atExpr (ts : List Tree) : Bool :=
  (Tree.atAnyWord ts && !Tree.atWord "as" ts) || Tree.atGroup .parenthesis ts ||
    Tree.atGroup .bracket ts || Tree.atGroup .brace ts || Tree.atLiteral ts ||
    (Tree.atOperator "!" ts && !Tree.atOperator "!=" ts) ||
    (Tree.atOperator "-" ts && !Tree.atOperator "-=" ts && !Tree.atOperator "->" ts) ||
    (Tree.atOperator "*" ts && !Tree.atOperator "*=" ts) ||
    (Tree.atOperator "|" ts && !Tree.atOperator "|=" ts) ||
    (Tree.atOperator "&" ts && !Tree.atOperator "&=" ts) || Tree.atOperator ".." ts ||
    (Tree.atOperator "<" ts && !Tree.atOperator "<=" ts && !Tree.atOperator "<<=" ts) ||
    Tree.atOperator "::" ts || Tree.atLifetime ts || Tree.atOperator "#" ts

/-- What shows that a half-open range has no end. -/
def atRangeEnd (struct : Bool) (ts : List Tree) : Bool :=
  ts.isEmpty || Tree.atOperator "," ts || Tree.atOperator ";" ts || atPoint ts ||
    (!struct && Tree.atGroup .brace ts) || Tree.atWord "as" ts ||
    ["?", "=>", "=", "+", "/", "%", "^", ">", "<=", "!=", "-=", "*=", "&=", "|=", "<<="].any
      fun text => Tree.atOperator text ts

/-- The index of a tuple field that is written as part of a number. -/
def isIndex (digits : List Char) : Bool :=
  match Number.integer? (String.ofList digits) with
  | some (n, "") => Word.fitsUnsigned 32 n
  | _ => false

namespace Grammar

variable (g : Grammar)

def block : Reader Unit := within .brace g.statements

/-- A block that may start with attributes of its own. -/
def attributedBlock : Reader Unit := within .brace do
  g.innerAttributes
  g.statements

/-! ### Operators -/

/-- The right side of an operator: an operand and what binds more strongly. -/
def operand (struct : Bool) (precedence : Precedence) : Reader Expr := do
  let first ← g.unary struct
  loop (fun right => do
    let next := nextPrecedence (← rest)
    if precedence.rank < next.rank || (next = .assign && precedence = .assign) then
      let before := (← rest).length
      let right ← g.operators struct next right
      return ((← rest).length < before, right)
    else return (false, right)) first

/-- The rest of a range after its sign. -/
def rangeRest (struct closed : Bool) : Reader Expr := do
  if !closed && (← peek (atRangeEnd struct)) then return ⟨.range, false⟩
  let last ← operand g struct .range
  return ⟨.range, last.endsInBrace⟩

/-- A cast may not be followed by what would apply to its type. -/
def afterCast (ts : List Tree) : Bool :=
  !(atPoint ts || Tree.atOperator "?" ts || Tree.atGroup .bracket ts ||
    Tree.atGroup .parenthesis ts)

/-- One operator that is not weaker than `base`, if one comes next. -/
def operatorStep (struct : Bool) (base : Precedence) (left : Expr) : Reader (Bool × Expr) := do
  let ts ← rest
  if left.kind = .range then return (false, left)
  match binaryOperator? ts with
  | some (text, precedence) =>
    if precedence.rank < base.rank then return (false, left)
    guard !(precedence = .compare && left.kind = .comparison)
    operator text
    let right ← operand g struct precedence
    let kind := if precedence = .compare then .comparison else .other
    return (true, ⟨kind, right.endsInBrace⟩)
  | none =>
    if base.rank ≤ Precedence.assign.rank && atAssign ts then
      operator "="
      let right ← operand g struct .assign
      return (true, right.endingAs)
    else if base.rank ≤ Precedence.range.rank && Tree.atOperator ".." ts then
      let closed ← rangeSign false
      return (true, ← rangeRest g struct closed)
    else if Tree.atWord "as" ts then
      word "as"
      let type ← g.type false
      expect afterCast
      return (true, ⟨.other, type.endsInBrace⟩)
    else return (false, left)

/-- The operators, not weaker than `base`, that follow an operand. -/
def readOperators (struct : Bool) (base : Precedence) (left : Expr) : Reader Expr :=
  loop (operatorStep g struct base) left

/-! ### Calls and fields -/

def arguments : Reader Unit := do
  let _ ← within .parenthesis (separated "," (g.expr true))

/-- A field or a method call after its point. -/
def member : Reader Unit := do
  let done ← do
    match ← rest with
    | .literal text :: _ =>
      if text.toList.head?.any Lexer.isDecimal && (Number.integer? text).isNone then
        drop 1
        let isOpen := text.toList.getLast? = some '.'
        let digits := if isOpen then text.toList.dropLast else text.toList
        guard ((Chars.splitAll '.' digits).all isIndex)
        pure !isOpen
      else pure false
    | _ => pure false
  if done then return
  if ← word? "await" then return
  let named ← fieldName
  if named then
    let turbofish ← operator? "::"
    if turbofish then
      let _ ← angled (argument g)
    if turbofish || (← peek (Tree.atGroup .parenthesis)) then arguments g

/-- Calls, indices, fields and question marks after an operand. -/
def readTrailers (operand : Expr) : Reader Expr := loop (fun e => do
  let ts ← rest
  if Tree.atGroup .parenthesis ts then
    arguments g
    return (true, .plain)
  else if atPoint ts && e.kind ≠ .range then
    operator "."
    member g
    return (true, .plain)
  else if Tree.atGroup .bracket ts then
    let _ ← within .bracket (g.expr true)
    return (true, .plain)
  else if Tree.atOperator "?" ts && e.kind ≠ .range then
    operator "?"
    return (true, .plain)
  else return (false, e)) operand

/-! ### Atoms -/

/-- A field of a struct literal. -/
def fieldValue : Reader Unit := do
  let _ ← g.outerAttributes
  let named ← fieldName
  if !named || (← peek (Tree.atOperator ":")) then
    operator ":"
    let _ ← g.expr true

def structFields : Reader Unit := within .brace <| repeatWhile do
  if ← atEnd then return false
  if ← operator? ".." then
    if ← atEnd then return false
    let _ ← g.expr true
    return false
  g.fieldValue
  if ← atEnd then return false
  operator ","
  return true

/-- A path, macro call or struct literal. -/
def pathExpr (struct : Bool) : Reader Expr := do
  let (qualified, path) ← qualifiedPath g true
  let ts ← rest
  if !qualified && Tree.atOperator "!" ts && !Tree.atOperator "!=" ts && path.isPlain then
    operator "!"
    let delimiter ← anyGroup
    return ⟨.macroCall delimiter, delimiter = .brace⟩
  if struct && Tree.atGroup .brace ts then
    structFields g
    return ⟨.other, true⟩
  return .plain

def closureInput : Reader Unit := do
  let _ ← g.outerAttributes
  let _ ← g.pattern
  if ← operator? ":" then
    let _ ← g.type true

def closure (struct : Bool) : Reader Expr := do
  let _ ← quantifier g
  let _ ← word? "const"
  let _ ← word? "static"
  let _ ← word? "async"
  let _ ← word? "move"
  operator "|"
  repeatWhile do
    if ← peek (Tree.atOperator "|") then return false
    closureInput g
    if ← peek (Tree.atOperator "|") then return false
    operator ","
    return true
  operator "|"
  if ← operator? "->" then
    let _ ← g.type true
    block g
    return ⟨.other, true⟩
  return (← g.expr struct).endingAs

/-- One condition and its block, up to the last `else`. -/
def conditional : Reader Unit := repeatWhile do
  word "if"
  let _ ← g.expr false
  block g
  if ← word? "else" then
    if ← peek (Tree.atWord "if") then return true
    block g
  return false

def whileLoop : Reader Unit := do
  word "while"
  let _ ← g.expr false
  attributedBlock g

def forLoop : Reader Unit := do
  word "for"
  let _ ← g.alternatives
  word "in"
  let _ ← g.expr false
  attributedBlock g

def endlessLoop : Reader Unit := do
  word "loop"
  attributedBlock g

/-- A branch of a match; a comma may be missing after a block and at the end. -/
def arm : Reader Unit := do
  let _ ← g.outerAttributes
  let _ ← g.alternatives
  if ← word? "if" then
    let _ ← g.expr true
  operator "=>"
  let body ← g.statementExpr
  if body.kind = .block || (← atEnd) then
    let _ ← operator? ","
  else operator ","

def matchExpr : Reader Unit := do
  word "match"
  let _ ← g.expr false
  within .brace do
    g.innerAttributes
    toEnd g.arm

/-- A loop or block after its label. -/
def labelled : Reader Unit := do
  let _ ← lifetime
  operator ":"
  let ts ← rest
  if Tree.atWord "while" ts then whileLoop g
  else if Tree.atWord "for" ts then forLoop g
  else if Tree.atWord "loop" ts then endlessLoop g
  else attributedBlock g

def parenthesizedExpr : Reader Unit := within .parenthesis do
  let _ ← separated "," (g.expr true)

def arrayExpr : Reader Unit := within .bracket do
  if ← atEnd then return
  let _ ← g.expr true
  if ← atEnd then return
  if ← operator? ";" then
    let _ ← g.expr true
  else
    operator ","
    let _ ← separated "," (g.expr true)

/-- The value of a jump, if it has one. -/
def jumpValue (present : Bool) : Reader Expr := do
  if present then return (← g.expr true).endingAs else return .plain

def breakExpr (struct : Bool) : Reader Expr := do
  word "break"
  let labelledLoop ← peek fun ts => Tree.atLifetime ts && Tree.atOperator ":" (Tree.skip ts)
  guard !labelledLoop
  let _ ← lifetime?
  jumpValue g (← peek fun ts => atExpr ts && (struct || !Tree.atGroup .brace ts))

def letExpr (struct : Bool) : Reader Expr := do
  word "let"
  let _ ← g.alternatives
  operator "="
  let first ← g.unary struct
  return (← g.operators struct .compare first).endingAs

/-- A quantifier that a closure has, and no loop. -/
def atQuantifier (ts : List Tree) : Bool := Tree.atWord "for" ts && atParameters (Tree.skip ts)

def atAsyncBlock (ts : List Tree) : Bool :=
  let next := Tree.skip ts
  Tree.atWord "async" ts && (Tree.atGroup .brace next ||
    (Tree.atWord "move" next && Tree.atGroup .brace (Tree.skip next)))

def atClosure (ts : List Tree) : Bool :=
  let next := Tree.skip ts
  Tree.atOperator "|" ts || Tree.atWord "move" ts || atQuantifier ts ||
    (Tree.atWord "const" ts && !Tree.atGroup .brace next) || Tree.atWord "static" ts ||
    (Tree.atWord "async" ts && (Tree.atOperator "|" next || Tree.atWord "move" next))

def atPathExpr (ts : List Tree) : Bool :=
  let next := Tree.skip ts
  Tree.atPath ts || Tree.atOperator "<" ts || Tree.atWord "Self" ts ||
    (Tree.atWord "try" ts && (Tree.atOperator "!" next || Tree.atOperator "::" next))

/-- An expression without operators around it. -/
def atom (struct : Bool) : Reader Expr := do
  let ts ← rest
  let next := Tree.skip ts
  if Tree.atLiteral ts then return ⟨.literal (← literal), false⟩
  else if atAsyncBlock ts then
    word "async"
    let _ ← word? "move"
    block g
    return ⟨.other, true⟩
  else if Tree.atWord "try" ts && Tree.atGroup .brace next then
    word "try"
    block g
    return .block
  else if atClosure ts then closure g struct
  else if atBuiltin ts then
    builtin
    return .plain
  else if atPathExpr ts then pathExpr g struct
  else if Tree.atGroup .parenthesis ts then
    parenthesizedExpr g
    return .plain
  else if Tree.atWord "break" ts then breakExpr g struct
  else if Tree.atWord "continue" ts then
    word "continue"
    let _ ← lifetime?
    return .plain
  else if Tree.atWord "return" ts || Tree.atWord "yield" ts then
    drop 1
    jumpValue g (← peek atExpr)
  else if Tree.atWord "become" ts then
    drop 1
    let _ ← g.expr true
    return ⟨.other, ← endedInBrace ts⟩
  else if Tree.atGroup .bracket ts then
    arrayExpr g
    return .plain
  else if Tree.atWord "let" ts then letExpr g struct
  else if Tree.atWord "if" ts then
    conditional g
    return .block
  else if Tree.atWord "while" ts then
    whileLoop g
    return .block
  else if Tree.atWord "for" ts then
    forLoop g
    return .block
  else if Tree.atWord "loop" ts then
    endlessLoop g
    return .block
  else if Tree.atWord "match" ts then
    matchExpr g
    return .block
  else if Tree.atWord "unsafe" ts || Tree.atWord "const" ts then
    drop 1
    attributedBlock g
    return .block
  else if Tree.atGroup .brace ts then
    attributedBlock g
    return .block
  else if Tree.atOperator ".." ts then
    let closed ← rangeSign false
    rangeRest g struct closed
  else if Tree.atWord "_" ts then
    word "_"
    return .plain
  else if Tree.atLifetime ts then
    labelled g
    return .block
  else failure

/-- An operand with its prefix operators. -/
def readUnary (struct : Bool) : Reader Expr := do
  let attributes ← g.outerAttributes
  let ts ← rest
  if Tree.atOperator "&" ts then
    operator "&"
    let raw ← peek fun ts => Tree.atWord "raw" ts &&
      (Tree.atWord "mut" (Tree.skip ts) || Tree.atWord "const" (Tree.skip ts))
    if raw then drop 2 else
      let _ ← word? "mut"
    return (← g.unary struct).endingAs
  else if Tree.atOperator "*" ts || Tree.atOperator "!" ts || Tree.atOperator "-" ts then
    drop 1
    return (← g.unary struct).endingAs
  else
    let e ← readTrailers g (← atom g struct)
    guard !(e.kind = .range && 0 < attributes)
    return e

/-- An expression; a struct literal at its end only if `struct`. -/
def readExpr (struct : Bool) : Reader Expr := do
  readOperators g struct .lowest (← readUnary g struct)

/-- What an expression may end with as soon as its brace closes. -/
def earlyBlock? (ts : List Tree) : Option (Reader Unit) :=
  let next := Tree.skip ts
  if Tree.atWord "if" ts then some (conditional g)
  else if Tree.atWord "while" ts then some (whileLoop g)
  else if Tree.atWord "for" ts && !atQuantifier ts then some (forLoop g)
  else if Tree.atWord "loop" ts then some (endlessLoop g)
  else if Tree.atWord "match" ts then some (matchExpr g)
  else if Tree.atWord "try" ts && Tree.atGroup .brace next then some (drop 1 *> block g)
  else if Tree.atWord "unsafe" ts then some (drop 1 *> attributedBlock g)
  else if Tree.atWord "const" ts && Tree.atGroup .brace next then
    some (drop 1 *> attributedBlock g)
  else if Tree.atGroup .brace ts then some (attributedBlock g)
  else if Tree.atLifetime ts then some (labelled g)
  else none

/-- An expression that ends with the brace of its first block, unless a point or question mark
follows. -/
def readStatementExpr : Reader Expr := do
  let _ ← g.outerAttributes
  match earlyBlock? g (← rest) with
  | some block =>
    block
    if ← peek fun ts => atPoint ts || Tree.atOperator "?" ts then
      readOperators g true .lowest (← readTrailers g .block)
    else return .block
  | none =>
    readOperators g true .lowest (← readUnary g true)

end Grammar

end Companion.Code

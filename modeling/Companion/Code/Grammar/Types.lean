import Companion.Code.Grammar.Basic
import Companion.Code.Number

/-! Paths, generic arguments, bounds and types. -/

set_option autoImplicit false

namespace Companion.Code

open Reader

namespace Grammar

variable (g : Grammar)

/-- The value of a constant argument: a literal, a name or a block. -/
def constArgument : Reader Unit := do
  if ← peek Tree.atLiteral then
    let _ ← literal
  else if ← peek Tree.atIdent then
    let _ ← ident
  else
    within .brace do
      g.innerAttributes
      g.statements

/-- Bounds with plus signs between them, up to what ends them. -/
def boundsUntil (const : Bool) (stop : List Tree → Bool) : Reader Unit := repeatWhile do
  if ← peek stop then return false
  let _ ← g.bound ⟨false, const⟩
  operator? "+"

/-- A name in a path with its arguments. Inside expressions they follow two colons. -/
def segment (inExpr : Bool) (arguments : Reader (List Argument)) : Reader Segment := do
  if ← peek fun ts => Tree.atWord "super" ts || Tree.atWord "self" ts || Tree.atWord "crate" ts ||
      Tree.atWord "try" ts then
    return .mk (← anyWord) .none
  let name ← if ← peek (Tree.atWord "Self") then anyWord else ident
  let angled ← peek fun ts =>
    (!inExpr && Tree.atOperator "<" ts && !Tree.atOperator "<=" ts && !Tree.atOperator "<<=" ts) ||
      (Tree.atOperator "::" ts && Tree.atOperator "<" (Tree.skip (Tree.skip ts)))
  if angled then
    let _ ← operator? "::"
    return .mk name (.angled (← arguments))
  return .mk name .none

/-- The rest of a generic argument that is an associated type, constant or constraint. -/
def associated : Reader Bool := do
  if ← operator? "=" then
    if ← peek fun ts => Tree.atLiteral ts || Tree.atGroup .brace ts then constArgument g
    else
      let _ ← g.type true
    return true
  if ← operator? ":" then
    boundsUntil g true fun ts => Tree.atOperator "," ts || Tree.atOperator ">" ts
    return true
  return false

def argument : Reader Argument := do
  if ← peek fun ts => Tree.atLifetime ts && !Tree.atOperator "+" (Tree.skip ts) then
    let _ ← lifetime
    return .other
  if ← peek fun ts => Tree.atLiteral ts || Tree.atGroup .brace ts then
    constArgument g
    return .other
  let type ← g.type true
  match type.soleSegment? with
  | some (.mk _ (.signature _)) | none => return .type type
  | some _ => if ← associated g then return .other else return .type type

/-- Items in angle brackets with commas after each but perhaps the last. -/
def angled {α : Type} (item : Reader α) : Reader (List α) := do
  operator "<"
  let items ← loop (fun items => do
    if ← peek (Tree.atOperator ">") then return (false, items)
    let items := (← item) :: items
    if ← peek (Tree.atOperator ">") then return (false, items)
    operator ","
    return (true, items)) []
  operator ">"
  return items.reverse

/-- More segments follow two colons, unless a parenthesis does. -/
def moreSegments (segment : Reader Segment) (first : List Segment) : Reader (List Segment) := do
  let segments ← loop (fun segments => do
    if ← peek fun ts => Tree.atOperator "::" ts &&
        !Tree.atGroup .parenthesis (Tree.skip (Tree.skip ts)) then
      operator "::"
      return (true, (← segment) :: segments)
    else return (false, segments)) first.reverse
  return segments.reverse

def typePath (inExpr : Bool) : Reader Path := do
  let absolute ← operator? "::"
  let segment := segment inExpr (angled (argument g))
  let first ← segment
  return .mk absolute (← moreSegments segment [first])

/-- The type after an arrow, if there is one; it is no sum of bounds. -/
def output : Reader (Option TypeExpr) := do
  if ← operator? "->" then some <$> g.type false else return none

/-- Inputs and output of a function trait. -/
def signatureArguments : Reader (Option TypeExpr) := do
  let _ ← within .parenthesis (separated "," (g.type true))
  output g

/-- A parameter of a generic item or of a quantifier. -/
def genericParameter : Reader Unit := do
  if ← peek Tree.atLifetime then
    let _ ← lifetime
    if ← operator? ":" then
      repeatWhile do
        if ← peek fun ts => Tree.atOperator "," ts || Tree.atOperator ">" ts then return false
        let _ ← lifetime
        operator? "+"
  else if ← word? "const" then
    let _ ← ident
    operator ":"
    let _ ← g.type true
    if ← operator? "=" then constArgument g
  else
    let _ ← ident
    if ← operator? ":" then
      boundsUntil g true fun ts =>
        Tree.atOperator "," ts || Tree.atOperator ">" ts || Tree.atOperator "=" ts
    if ← operator? "=" then
      let _ ← g.type true

/-- Parameters that a type, bound or closure quantifies over. -/
def quantifier : Reader Bool := do
  if ← word? "for" then
    let _ ← angled do
      let _ ← g.outerAttributes
      genericParameter g
    return true
  return false

/-- Parameters of an item, one of which may lack a name and then has nothing else. -/
def generics : Reader Unit := do
  if ← peek (Tree.atOperator "<") then
    let _ ← angled do
      let _ ← g.outerAttributes
      if ← word? "_" then pure () else genericParameter g

/-- Whether an angle bracket opens parameters, not a qualified path. -/
def atParameters (ts : List Tree) : Bool :=
  let next := Tree.skip ts
  let third := Tree.skip next
  Tree.atOperator "<" ts && (Tree.atOperator ">" next || Tree.atOperator "#" next ||
    ((Tree.atLifetime next || Tree.atIdent next) && (Tree.atOperator ">" third ||
      Tree.atOperator "," third || (Tree.atOperator ":" third && !Tree.atOperator "::" third) ||
      Tree.atOperator "=" third)) ||
    Tree.atWord "const" next)

/-- The path of a trait, with inputs and output in parentheses if it is a function trait. -/
def traitPath : Reader Path := do
  let path ← typePath g false
  let signed ← peek fun ts => path.endsPlain && (Tree.atGroup .parenthesis ts ||
    (Tree.atOperator "::" ts && Tree.atGroup .parenthesis (Tree.skip (Tree.skip ts))))
  if signed then
    let _ ← operator? "::"
    return path.withSignature (← signatureArguments g)
  return path

/-- A trait with what may stand before it. A trait for constant contexts is no trait to the type
it stands in. -/
def traitBound (forms : BoundForms) : Reader Bound := do
  let quantified ← quantifier g
  let isConst ← if ← peek (Tree.atGroup .bracket) then do
      within .bracket (word "const")
      pure true
    else word? "const"
  guard (!isConst || forms.const)
  let relaxed ← operator? "?"
  let quantified ← if relaxed && !quantified then quantifier g else pure quantified
  let path ← traitPath g
  guard (!(relaxed && quantified))
  return if isConst then .other false else .trait path

/-- A trait or lifetime, or a list of captured lifetimes. -/
def readBound (forms : BoundForms) : Reader Bound := do
  let before ← rest
  if ← peek Tree.atLifetime then return .lifetime (← lifetime)
  if ← word? "use" then
    let _ ← angled do
      if ← peek Tree.atLifetime then lifetime else
        expect fun ts => Tree.atIdent ts || Tree.atWord "Self" ts
        anyWord
    guard forms.capture
    return .capture
  let bound ← if ← peek (Tree.atGroup .parenthesis) then within .parenthesis (traitBound g forms)
    else traitBound g forms
  match bound with
  | .other _ => return .other (← endedInBrace before)
  | bound => return bound

/-- What may begin another bound after a plus sign. -/
def atBound (forms : BoundForms) (ts : List Tree) : Bool :=
  Tree.atAnyWord ts || Tree.atOperator "::" ts || Tree.atOperator "?" ts || Tree.atLifetime ts ||
    Tree.atGroup .parenthesis ts ||
    (forms.const && (Tree.atGroup .bracket ts || Tree.atWord "const" ts))

/-- Bounds with plus signs between them; tells whether a plus sign ends them. -/
def bounds (plus : Bool) (forms : BoundForms) : Reader (List Bound × Bool) := do
  let (bounds, isOpen) ← loop (fun (bounds, _) => do
    let bounds := (← g.bound forms) :: bounds
    if ← peek fun ts => plus && Tree.atOperator "+" ts then
      operator "+"
      if ← peek (atBound forms) then return (true, bounds, false)
      return (false, bounds, true)
    return (false, bounds, false)) ([], false)
  return (bounds.reverse, isOpen)

/-- A path that may start from a type in angle brackets; tells whether it does. -/
def qualifiedPath (inExpr : Bool) : Reader (Bool × Path) := do
  if ← peek (Tree.atOperator "<") then
    operator "<"
    let _ ← g.type true
    if ← word? "as" then
      let _ ← typePath g false
    operator ">"
    operator "::"
    let segment := segment inExpr (angled (argument g))
    let segments ← loop (fun segments => do
      let segments := (← segment) :: segments
      return (← operator? "::", segments)) []
    return (true, .mk false segments.reverse)
  return (false, ← typePath g inExpr)

/-- An object needs a trait among its bounds. -/
def objectBounds (plus : Bool) : Reader (List Bound × Bool) := do
  let (bounds, isOpen) ← bounds g plus ⟨false, false⟩
  guard (bounds.any fun | .trait _ => true | _ => false)
  return (bounds, isOpen)

/-- More bounds after plus signs, where each plus sign needs one. -/
def moreBounds : Reader (List Bound) := do
  let bounds ← loop (fun bounds => do
    if ← operator? "+" then return (true, (← g.bound ⟨false, false⟩) :: bounds)
    else return (false, bounds)) []
  return bounds.reverse

/-- What stands between the parentheses of a type; a sum of bounds may start there. -/
def insideParentheses : Reader TypeExpr := do
  if ← atEnd then return .tuple []
  if ← peek Tree.atLifetime then
    let (bounds, isOpen) ← objectBounds g true
    return .parenthesized (.traitObject false bounds isOpen)
  if ← peek (Tree.atOperator "?") then
    return .traitObject false [← g.bound ⟨false, false⟩] false
  let first ← g.type true
  if ← peek (Tree.atOperator ",") then
    operator ","
    return .tuple (first :: (← separated "," (g.type true)))
  return .parenthesized first

/-- A type that starts with a parenthesis. -/
def parenthesizedType (plus : Bool) : Reader TypeExpr := do
  let inner ← within .parenthesis (insideParentheses g)
  match inner with
  | .traitObject false first _ => return .traitObject false (first ++ (← moreBounds g)) false
  | .parenthesized first =>
    match first.asBound? with
    | some bound =>
      if ← peek fun ts => plus && Tree.atOperator "+" ts then
        return .traitObject false (bound :: (← moreBounds g)) false
      return inner
    | none => return inner
  | _ => return inner

/-- Points that stand for further parameters, with or without a name. -/
def atVariadic (ts : List Tree) : Bool :=
  Tree.atOperator "..." ts || ((Tree.atIdent ts || Tree.atWord "_" ts) &&
    Tree.atOperator ":" (Tree.skip ts) && Tree.atOperator "..." (Tree.skip (Tree.skip ts)))

def atMutSelf (ts : List Tree) : Bool := Tree.atWord "mut" ts && Tree.atWord "self" (Tree.skip ts)

/-- A parameter of a function type, with or without a name; tells whether another may follow.
The receiver, which only the first can be, may do without a type if it is mutable. -/
def functionInput (first : Bool) : Reader Bool := do
  let _ ← g.outerAttributes
  if ← peek atVariadic then
    if ← peek Tree.atAnyWord then drop 2
    operator "..."
    let _ ← operator? ","
    return false
  let isMutable ← peek fun ts => first && atMutSelf ts
  if isMutable then word "mut"
  let isReceiver ← peek fun ts => first && Tree.atWord "self" ts
  let named ← peek fun ts => (isReceiver || Tree.atIdent ts || Tree.atWord "_" ts) &&
    Tree.atOperator ":" (Tree.skip ts) && !Tree.atOperator "::" (Tree.skip ts)
  if named then drop 2
  if ← peek fun ts => first && !(named && isReceiver) && atMutSelf ts then drop 2
  else if isMutable && !named then word "self"
  else
    let _ ← g.type true
  return true

/-- A function type after its quantifier; gives its output. -/
def functionType : Reader (Option TypeExpr) := do
  let _ ← word? "unsafe"
  if ← word? "extern" then
    if ← peek fun | .literal _ :: _ => true | _ => false then quotedText
  word "fn"
  within .parenthesis do
    let _ ← loop (fun first => do
      if ← atEnd then return (false, false)
      if ← functionInput g first then
        if ← atEnd then return (false, false)
        operator ","
        return (true, false)
      else return (false, false)) true
  output g

/-- What a quantifier may precede. -/
def atQuantified (ts : List Tree) : Bool :=
  (Tree.atIdent ts || Tree.atWord "fn" ts || Tree.atWord "unsafe" ts || Tree.atWord "extern" ts ||
    Tree.atWord "super" ts || Tree.atWord "self" ts || Tree.atWord "Self" ts ||
    Tree.atWord "crate" ts) && !Tree.atWord "dyn" ts

/-- A type that starts with a path: the path, a macro call or a sum of bounds. -/
def pathType (plus quantified : Bool) : Reader TypeExpr := do
  let (qualified, path) ← qualifiedPath g false
  if qualified then return .path true path
  if ← peek fun ts => Tree.atOperator "!" ts && !Tree.atOperator "!=" ts && path.isPlain then
    operator "!"
    return .macroCall (← anyGroup)
  if ← peek fun ts => quantified || (plus && Tree.atOperator "+" ts) then
    let (bounds, isOpen) ← loop (fun (bounds, isOpen) => do
      if ← peek fun ts => plus && Tree.atOperator "+" ts then
        operator "+"
        if ← peek (atBound ⟨false, false⟩) then
          return (true, (← g.bound ⟨false, false⟩) :: bounds, false)
        return (false, bounds, true)
      return (false, bounds, isOpen)) ([Bound.trait path], false)
    return .traitObject false bounds.reverse isOpen
  return .path false path

/-- A form that the compiler provides: a name after a hash, with arguments of its own. -/
def builtin : Reader Unit := do
  word "builtin"
  operator "#"
  let _ ← ident
  within .parenthesis anything

def atBuiltin (ts : List Tree) : Bool :=
  Tree.atWord "builtin" ts && Tree.atOperator "#" (Tree.skip ts)

/-- What stands between the brackets of a slice or an array. -/
def insideBrackets : Reader TypeExpr := do
  let element ← g.type true
  if ← operator? ";" then
    let length ← g.expr true
    match length.kind with
    | .literal text => return .array element (Number.integerDigits? text)
    | _ => return .array element none
  return .slice element

/-- A type, with the grammar one level down for what nests in it. -/
def readType (plus : Bool) : Reader TypeExpr := do
  let quantified ← quantifier g
  if quantified then expect atQuantified
  let ts ← rest
  if Tree.atGroup .parenthesis ts then parenthesizedType g plus
  else if Tree.atWord "fn" ts || Tree.atWord "unsafe" ts || Tree.atWord "extern" ts then
    return .function (← functionType g)
  else if atBuiltin ts then
    builtin
    return .other false
  else if Tree.atIdent ts || Tree.atWord "super" ts || Tree.atWord "self" ts ||
      Tree.atWord "Self" ts || Tree.atWord "crate" ts || Tree.atOperator "::" ts ||
      Tree.atOperator "<" ts then
    pathType g plus quantified
  else if Tree.atWord "dyn" ts then
    word "dyn"
    let starred ← operator? "*"
    let (bounds, isOpen) ← objectBounds g plus
    if starred then return .other (← endedInBrace ts)
    return .traitObject true bounds isOpen
  else if Tree.atGroup .bracket ts then
    within .bracket (insideBrackets g)
  else if Tree.atOperator "*" ts then
    operator "*"
    if ← word? "const" then pure () else word "mut"
    return .pointer (← g.type false)
  else if Tree.atOperator "&" ts then
    operator "&"
    let lifetime ← lifetime?
    let isMutable ← word? "mut"
    return .reference lifetime isMutable (← g.type false)
  else if Tree.atOperator "!" ts && !Tree.atOperator "=" ts then
    operator "!"
    return .never
  else if Tree.atWord "impl" ts then
    word "impl"
    let (bounds, _) ← bounds g plus ⟨true, true⟩
    guard (bounds.any fun | .trait _ => true | .other _ => true | _ => false)
    return .implTrait bounds
  else if Tree.atWord "_" ts then
    word "_"
    return .inferred
  else if Tree.atLifetime ts then
    let (bounds, isOpen) ← objectBounds g true
    return .traitObject false bounds isOpen
  else failure

end Grammar

end Companion.Code

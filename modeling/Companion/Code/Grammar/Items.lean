import Companion.Code.Grammar.Statements

/-! Items: functions, types, traits, implementations and modules. -/

set_option autoImplicit false

namespace Companion.Code

open Reader

namespace Grammar

variable (g : Grammar)

/-- A visibility; tells whether there is one. -/
def visibility : Reader Bool := do
  if ← word? "pub" then
    match ← rest with
    | .group .parenthesis body :: after =>
      match body with
      | [.ident name] =>
        if name = "crate" ∨ name = "self" ∨ name = "super" then set after
      | .ident "in" :: path => if (all? plainPath path).isSome then set after else failure
      | _ => pure ()
    | _ => pure ()
    return true
  return false

/-- What ends the bounds of a condition. -/
def atConditionEnd (ts : List Tree) : Bool :=
  ts.isEmpty || Tree.atGroup .brace ts || Tree.atOperator "," ts || Tree.atOperator ";" ts ||
    (Tree.atOperator ":" ts && !Tree.atOperator "::" ts) || Tree.atOperator "=" ts

/-- A condition of a `where` clause. -/
def condition : Reader Unit := do
  if ← peek fun ts => Tree.atLifetime ts && Tree.atOperator ":" (Tree.skip ts) then
    let _ ← lifetime
    operator ":"
    repeatWhile do
      if ← peek atConditionEnd then return false
      let _ ← lifetime
      operator? "+"
  else
    let _ ← quantifier g
    let _ ← g.type true
    operator ":"
    boundsUntil g true atConditionEnd

/-- Parameters may not follow `where`. -/
def whereClause : Reader Bool := do
  if ← word? "where" then
    expect fun ts => !atParameters ts
    repeatWhile do
      if ← peek atConditionEnd then return false
      condition g
      operator? ","
    return true
  return false

def returnType : Reader Unit := do
  if ← operator? "->" then
    let _ ← g.type true

/-! ### Functions -/

/-- The calling convention of a function. -/
def convention : Reader Bool := do
  if ← word? "extern" then
    if ← peek fun | .literal _ :: _ => true | _ => false then quotedText
    return true
  return false

/-- What an item says of the care that its use asks for; only a foreign one may be `safe`. -/
def safety (foreign : Bool) : Reader Unit := do
  if ← word? "unsafe" then return
  if foreign then
    let _ ← word? "safe"

/-- Words before `fn`. -/
def qualifiers (foreign : Bool) : Reader Unit := do
  let _ ← word? "const"
  let _ ← word? "async"
  safety foreign
  let _ ← convention

def atSignature (foreign : Bool) (ts : List Tree) : Bool :=
  match (qualifiers foreign *> word "fn").run ts with
  | some _ => true
  | none => false

/-- A receiver, unless it is the start of a path. -/
def atReceiver (ts : List Tree) : Bool :=
  let ts := if Tree.atOperator "&" ts then Tree.skip ts else ts
  let ts := if Tree.atLifetime ts then Tree.skip ts else ts
  let ts := if Tree.atWord "mut" ts then Tree.skip ts else ts
  Tree.atWord "self" ts && !Tree.atOperator "::" (Tree.skip ts)

/-- The receiver of a method. -/
def receiver : Reader Unit := do
  let borrowed ← operator? "&"
  if borrowed then
    let _ ← lifetime?
  let _ ← word? "mut"
  word "self"
  if !borrowed then
    if ← operator? ":" then
      let _ ← g.type true

/-- What a parameter turned out to be. -/
inductive Parameter where
  | receiver
  | value
  | variadic
  deriving DecidableEq

def parameter : Reader Parameter := do
  if ← operator? "..." then return .variadic
  if ← peek atReceiver then
    receiver g
    return .receiver
  if ← peek fun ts => Tree.atIdent ts && Tree.atOperator "<" (Tree.skip ts) then
    let _ ← g.type true
    return .value
  let _ ← g.pattern
  operator ":"
  if ← operator? "..." then return .variadic
  let _ ← g.type true
  return .value

/-- Parameters: a receiver only first, three points only last. -/
def parameters : Reader Unit := do
  let _ ← loop (fun first => do
    if ← atEnd then return (false, false)
    let _ ← g.outerAttributes
    let kind ← g.parameter
    guard (kind ≠ .receiver || first)
    if ← atEnd then return (false, false)
    operator ","
    return (kind ≠ .variadic, false)) true

def signature (foreign : Bool) : Reader Unit := do
  qualifiers foreign
  word "fn"
  let _ ← ident
  generics g
  within .parenthesis (parameters g)
  returnType g
  let _ ← whereClause g

/-- A function with a body, or with a semicolon in its place. -/
def function (foreign : Bool) : Reader Unit := do
  signature g foreign
  if ← operator? ";" then pure () else attributedBlock g

/-! ### Constants and types -/

def constantName : Reader Unit := do
  if ← word? "_" then pure () else
    let _ ← ident

def constant : Reader Unit := do
  word "const"
  constantName
  generics g
  operator ":"
  let _ ← g.type true
  if ← operator? "=" then
    let _ ← g.expr true
  let _ ← whereClause g
  operator ";"

def static : Reader Unit := do
  word "static"
  let _ ← word? "mut"
  let _ ← ident
  if ← operator? ":" then
    let _ ← g.type true
    if ← operator? "=" then
      let _ ← g.expr true
  else
    operator "="
    let _ ← g.expr true
  operator ";"

/-- A foreign variable has a type. -/
def foreignStatic : Reader Unit := do
  safety true
  word "static"
  let _ ← word? "mut"
  let _ ← ident
  operator ":"
  let _ ← g.type true
  if ← operator? "=" then
    let _ ← g.expr true
  operator ";"

def atForeignStatic (ts : List Tree) : Bool :=
  Tree.atWord "static" ts || ((Tree.atWord "unsafe" ts || Tree.atWord "safe" ts) &&
    Tree.atWord "static" (Tree.skip ts))

/-- Where conditions stand in a type alias. -/
inductive ConditionPlace where
  | beforeDefinition
  | afterDefinition
  /-- After the definition, unless they precede it. -/
  | either
  deriving DecidableEq

/-- A type by another name. -/
def typeAlias (place : ConditionPlace) : Reader Unit := do
  word "type"
  let _ ← ident
  generics g
  if ← operator? ":" then
    boundsUntil g true fun ts =>
      Tree.atWord "where" ts || Tree.atOperator "=" ts || Tree.atOperator ";" ts
  let conditioned ← if place = .afterDefinition then pure false else whereClause g
  if ← operator? "=" then
    let _ ← g.type true
  if place ≠ .beforeDefinition && !conditioned then
    let _ ← whereClause g
  operator ";"

/-- What may follow the colon of a field without a name, besides a type: fields of its own. -/
def atFields (ts : List Tree) : Bool :=
  Tree.atWord "struct" ts || (Tree.atWord "union" ts && Tree.atGroup .brace (Tree.skip ts))

/-- A field with a name, or with an underscore in its place. -/
def readField : Reader Unit := do
  let _ ← g.outerAttributes
  let _ ← visibility
  let unnamed ← word? "_"
  if !unnamed then
    let _ ← ident
  operator ":"
  if ← peek fun ts => unnamed && atFields ts then
    drop 1
    let _ ← within .brace (separated "," g.field)
  else
    let _ ← g.type true

def namedFields : Reader Unit := do
  let _ ← within .brace (separated "," g.field)

def tupleField : Reader Unit := do
  let _ ← g.outerAttributes
  let _ ← visibility
  let _ ← g.type true

def tupleFields : Reader Unit := do
  let _ ← within .parenthesis (separated "," (tupleField g))

def struct : Reader Unit := do
  word "struct"
  let _ ← ident
  generics g
  let conditioned ← whereClause g
  if !conditioned && (← peek (Tree.atGroup .parenthesis)) then
    tupleFields g
    let _ ← whereClause g
    operator ";"
  else if ← peek (Tree.atGroup .brace) then namedFields g
  else operator ";"

def variant : Reader Unit := do
  let _ ← g.outerAttributes
  let _ ← visibility
  let _ ← ident
  if ← peek (Tree.atGroup .brace) then namedFields g
  else if ← peek (Tree.atGroup .parenthesis) then tupleFields g
  if ← operator? "=" then
    let _ ← g.expr true

def enum : Reader Unit := do
  word "enum"
  let _ ← ident
  generics g
  let _ ← whereClause g
  let _ ← within .brace (separated "," g.variant)

def union : Reader Unit := do
  word "union"
  let _ ← ident
  generics g
  let _ ← whereClause g
  namedFields g

/-! ### Macros and imports -/

/-- The group of a macro call, with a semicolon unless it is in braces. -/
def macroGroup : Reader Unit := do
  let delimiter ← anyGroup
  if delimiter ≠ .brace then operator ";"

/-- A macro call in the place of an item, perhaps with a name. -/
def macroItem (named : Bool) : Reader Unit := do
  plainPath
  operator "!"
  if named then
    if ← peek fun ts => Tree.atIdent ts || Tree.atWord "try" ts then
      let _ ← anyWord
  macroGroup

def macroDefinition : Reader Unit := do
  word "macro"
  let _ ← ident
  if ← peek (Tree.atGroup .parenthesis) then
    let _ ← anyGroup
  within .brace anything

/-- An imported path, which may branch. Two colons lead it at most once, and before its names. -/
def readUseTree (rooted : Bool) : Reader Unit := do
  let ts ← rest
  if Tree.atIdent ts || Tree.atWord "self" ts || Tree.atWord "super" ts ||
      Tree.atWord "crate" ts || Tree.atWord "try" ts then
    let _ ← anyWord
    if ← operator? "::" then g.useTree false
    else if ← word? "as" then constantName
  else if ← operator? "*" then return
  else within .brace do
    let _ ← separated "," do
      let led ← if rooted then operator? "::" else pure false
      g.useTree (rooted && !led)

def useItem : Reader Unit := do
  word "use"
  let led ← operator? "::"
  g.useTree !led
  operator ";"

def externCrate : Reader Unit := do
  word "extern"
  word "crate"
  if ← word? "self" then pure () else
    let _ ← ident
  if ← word? "as" then constantName
  operator ";"

/-! ### Traits and implementations -/

/-- Where an item stands; the two kinds of members differ from items. -/
inductive Place where
  | trait
  | implementation
  | foreign
  deriving DecidableEq

/-- A member of a trait, implementation or foreign module. -/
def memberItem (place : Place) : Reader Unit := do
  let _ ← g.outerAttributes
  let visible ← visibility
  let isDefault ← match place with
    | .trait => word? "default"
    | .implementation =>
      if ← peek fun ts => Tree.atOperator "!" (Tree.skip ts) then pure false else word? "default"
    | .foreign => pure false
  let ts ← rest
  let foreign := place = .foreign
  if atSignature foreign ts then function g foreign
  else if Tree.atWord "const" ts && !foreign then constant g
  else if atForeignStatic ts && foreign then foreignStatic g
  else if Tree.atWord "type" ts then typeAlias g (if foreign then .either else .afterDefinition)
  else
    guard (!visible && !isDefault && Tree.atPath ts)
    macroItem false

def members (place : Place) : Reader Unit := within .brace do
  g.innerAttributes
  toEnd (memberItem g place)

def foreignModule : Reader Unit := do
  let _ ← word? "unsafe"
  guard (← convention)
  members g .foreign

/-- A trait, or a sum of bounds by another name. -/
def trait : Reader Unit := do
  let isUnsafe ← word? "unsafe"
  let isAuto ← word? "auto"
  word "trait"
  let _ ← ident
  generics g
  if !isUnsafe && !isAuto && (← operator? "=") then
    boundsUntil g false fun ts => Tree.atWord "where" ts || Tree.atOperator ";" ts
    let _ ← whereClause g
    operator ";"
  else
    if ← operator? ":" then
      boundsUntil g true fun ts => Tree.atWord "where" ts || Tree.atGroup .brace ts
    let _ ← whereClause g
    members g .trait

def implementation : Reader Unit := do
  let _ ← word? "default"
  let _ ← word? "unsafe"
  word "impl"
  if ← peek atParameters then generics g
  if ← peek fun ts => Tree.atOperator "?" ts && Tree.atWord "const" (Tree.skip ts) then drop 2
  else
    let _ ← word? "const"
  let negative ← peek fun ts => Tree.atOperator "!" ts && !Tree.atGroup .brace (Tree.skip ts)
  if negative then operator "!"
  let _ ← g.type true
  if ← word? "for" then
    let _ ← g.type true
  else guard !negative
  let _ ← whereClause g
  members g .implementation

/-! ### Any item -/

def module : Reader Unit := do
  let _ ← word? "unsafe"
  word "mod"
  if ← word? "try" then pure () else
    let _ ← ident
  if ← operator? ";" then return
  within .brace do
    g.innerAttributes
    toEnd g.item

/-- An item that starts with `unsafe`; a foreign module is never visible. -/
def unsafeItem (visible : Bool) (next : List Tree) : Reader Unit :=
  if Tree.atWord "trait" next || Tree.atWord "auto" next then trait g
  else if Tree.atWord "impl" next then implementation g
  else if Tree.atWord "extern" next then guard (!visible) *> foreignModule g
  else module g

def readItem : Reader Unit := do
  let _ ← g.outerAttributes
  let visible ← visibility
  let ts ← rest
  let next := Tree.skip ts
  if atSignature false ts then function g false
  else if Tree.atWord "extern" ts then
    if Tree.atWord "crate" next then externCrate else guard (!visible) *> foreignModule g
  else if Tree.atWord "use" ts then useItem g
  else if Tree.atWord "static" ts then static g
  else if Tree.atWord "const" ts then constant g
  else if Tree.atWord "unsafe" ts then unsafeItem g visible next
  else if Tree.atWord "mod" ts then module g
  else if Tree.atWord "type" ts then typeAlias g .beforeDefinition
  else if Tree.atWord "struct" ts then struct g
  else if Tree.atWord "enum" ts then enum g
  else if Tree.atWord "union" ts && Tree.atIdent next then union g
  else if Tree.atWord "trait" ts then trait g
  else if Tree.atWord "auto" ts && Tree.atWord "trait" next then trait g
  else if Tree.atWord "impl" ts ||
      (Tree.atWord "default" ts && !Tree.atOperator "!" next) then implementation g
  else if Tree.atWord "macro" ts then macroDefinition
  else
    guard (!visible && Tree.atPath ts)
    macroItem true

end Grammar

end Companion.Code

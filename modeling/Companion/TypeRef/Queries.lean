import Companion.TypeRef.Basic

/-! What generators and validators ask of a type. -/

set_option autoImplicit false

namespace Companion.TypeRef

/-- Library types by the last segment of their names. -/
def integers : List String :=
  ["i8", "i16", "i32", "i64", "i128", "isize", "u8", "u16", "u32", "u64", "u128", "usize"]

def floats : List String := ["f32", "f64"]

def bigIntegers : List String := ["BigInt", "BigUint"]

def sequences : List String :=
  ["Vec", "VecDeque", "LinkedList", "BinaryHeap", "HashSet", "BTreeSet"]

def maps : List String := ["HashMap", "BTreeMap"]

/-- A path whose last segment is one of the names. -/
def isNamed (names : List String) : TypeRef → Bool
  | path name _ => names.contains (Text.lastSegment name)
  | _ => false

def isUnit : TypeRef → Bool
  | unit => true
  | _ => false

def isReference : TypeRef → Bool
  | reference .. => true
  | _ => false

/-- The content of an `Option`. -/
def optionContent? (t : TypeRef) : Option TypeRef :=
  match t with
  | path _ [content] => if t.isNamed ["Option"] then some content else none
  | _ => none

def isNullable (t : TypeRef) : Bool := t.optionContent?.isSome

/-- The referent of a reference, or the type itself. -/
def dereferenced : TypeRef → TypeRef
  | reference _ _ referent => referent
  | t => t

/-- The content of an `Option`, or the type itself. -/
def valueType (t : TypeRef) : TypeRef := t.optionContent?.getD t

def isMap (t : TypeRef) : Bool := t.isNamed maps

/-- A sequence, set, map, slice or array. -/
def isPlainCollection (t : TypeRef) : Bool :=
  match t with
  | slice _ | array .. => true
  | _ => t.isNamed sequences || t.isNamed maps

/-- A collection, or a reference to one. -/
def isCollection (t : TypeRef) : Bool := t.dereferenced.isPlainCollection

/-- What a collection holds; of a map, its values. -/
def elementType? (t : TypeRef) : Option TypeRef :=
  let target := t.dereferenced
  if target.isCollection then
    if target.isMap then target.arguments[1]? else target.arguments.head?
  else none

def isStr : TypeRef → Bool
  | path name _ => name == "str"
  | _ => false

/-- `String`, `str` and `Cow<str>`, or a reference to one. -/
def isText (t : TypeRef) : Bool :=
  let target := t.dereferenced
  target.isNamed ["String", "str"] || (target.isNamed ["Cow"] && target.arguments.any isStr)

def isInteger (t : TypeRef) : Bool := t.dereferenced.isNamed integers

def isFloat (t : TypeRef) : Bool := t.dereferenced.isNamed floats

def isBigInteger (t : TypeRef) : Bool := t.dereferenced.isNamed bigIntegers

def isNumeric (t : TypeRef) : Bool := t.isInteger || t.isFloat || t.isBigInteger

/-- Whether the type has a length. -/
def isSized (t : TypeRef) : Bool := t.isCollection || t.isText

mutual

def isCopy : TypeRef → Bool
  | path name arguments =>
    (path name []).isNamed (integers ++ floats ++ ["bool", "char"]) ||
      ((path name []).isNamed ["Option"] && arguments.length == 1 && allCopy arguments)
  | reference _ isMutable _ => !isMutable
  | slice _ => false
  | array element _ => isCopy element
  | tuple first others => isCopy first && allCopy others
  | unit => true
  | traitObject _ => false

def allCopy : List TypeRef → Bool
  | [] => true
  | t :: others => isCopy t && allCopy others

end

mutual

/-- Whether values of the type can be keys of a hash map. -/
def isHashable : TypeRef → Bool
  | path name arguments =>
    !(path name []).isNamed (floats ++ ["HashMap", "HashSet"]) && allHashable arguments
  | reference _ _ referent => isHashable referent
  | slice element => isHashable element
  | array element _ => isHashable element
  | tuple first others => isHashable first && allHashable others
  | unit => true
  | traitObject _ => false

def allHashable : List TypeRef → Bool
  | [] => true
  | t :: others => isHashable t && allHashable others

end

/-! ### Leaf encodings -/

def leafScalars : List String :=
  ["i8", "i16", "i32", "i64", "isize", "u8", "u16", "u32", "u64", "usize", "f32", "f64", "bool",
    "char", "String"]

def leafContainers : List String :=
  ["Option", "Vec", "VecDeque", "LinkedList", "HashSet", "BTreeSet"]

/-- Library types without a leaf encoding, which no other crate can add. -/
def foreignTypes : List String :=
  ["i128", "u128", "BigInt", "BigUint", "BinaryHeap", "Box", "Rc", "Arc", "Cow", "PathBuf", "str"]

/-- Number of arguments of a library type that has a leaf encoding. -/
def leafArity? (t : TypeRef) : Option Nat :=
  if t.isNamed leafScalars then some 0
  else if t.isNamed leafContainers then some 1
  else if t.isNamed maps then some 2
  else none

def isForeign (t : TypeRef) : Bool :=
  t.isNamed foreignTypes || match t with
    | path name _ =>
      let bare := (Text.afterPrefix? "::" name).getD name
      ["std::", "core::", "alloc::"].any fun start => Text.startsWith start bare
    | _ => false

mutual

/-- The first part of the type that has no leaf encoding. A type of the consuming crate may
have one, but not a declared type, which encodes only through its converter. -/
def missingLeaf? (isDeclared : TypeRef → Bool) : TypeRef → Option TypeRef
  | path name arguments =>
    let t := path name arguments
    match t.leafArity? with
    | some arity =>
      if arguments.length = arity then firstMissingLeaf? isDeclared arguments else some t
    | none => if t.isForeign || isDeclared t then some t else none
  | t => some t

def firstMissingLeaf? (isDeclared : TypeRef → Bool) : List TypeRef → Option TypeRef
  | [] => none
  | t :: others => (missingLeaf? isDeclared t).or (firstMissingLeaf? isDeclared others)

end

/-! ### Cache keys -/

/-- How a parameter becomes an owned cache key. -/
inductive KeyConversion where
  | copy
  | deref
  | clone
  | toOwned
  | toVec
  deriving DecidableEq, Repr

def KeyConversion.apply (expr : String) : KeyConversion → String
  | copy => expr
  | deref => "*" ++ expr
  | clone => expr ++ ".clone()"
  | toOwned => expr ++ ".to_owned()"
  | toVec => expr ++ ".to_vec()"

/-- The owned type that keys a cache in the place of this one, and the way there. -/
def ownedKey (t : TypeRef) : TypeRef × KeyConversion :=
  match t with
  | reference _ _ referent =>
    if referent.isStr then (named "String", .toOwned)
    else match referent with
      | slice element => (path "Vec" [element], .toVec)
      | _ => if referent.isCopy then (referent, .deref) else (referent, .clone)
  | _ => (t, if t.isCopy then .copy else .clone)

end Companion.TypeRef

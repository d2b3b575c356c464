import Companion.Intercept.Weave
import Companion.Proofs.Results
import Companion.TypeRef.Assignable
import Mathlib.Data.List.Basic

/-! Types with their shape apart from their arguments.

Arguments are a list of any length, and what a shape has one of is taken from it by its index. No
type that can be built misses an argument there: it has the number of them that its shape asks for,
and so do its parts.
-/

set_option autoImplicit false

namespace Companion

inductive FlatType where
  | mk (shape : Shape) (path : String) (arguments : List FlatType)

namespace FlatType

def shape : FlatType → Shape
  | mk shape _ _ => shape

def path : FlatType → String
  | mk _ path _ => path

def arguments : FlatType → List FlatType
  | mk _ _ arguments => arguments

/-! ### Questions

There is no answer to a question that misses an argument.
-/

def simpleName (t : FlatType) : String := Text.lastSegment t.path

def isNamed (names : List String) (t : FlatType) : Bool :=
  t.shape = .path && names.contains t.simpleName

def isNullable (t : FlatType) : Bool := t.isNamed ["Option"] && t.arguments.length = 1

def isStr (t : FlatType) : Bool := t.shape = .path && t.path == "str"

def dereferenced? (t : FlatType) : Option FlatType :=
  match t.shape with
  | .reference .. => t.arguments[0]?
  | _ => some t

def valueType? (t : FlatType) : Option FlatType :=
  if t.isNullable then t.arguments[0]? else some t

def isCollection? (t : FlatType) : Option Bool := do
  let target ← t.dereferenced?
  return match target.shape with
    | .slice | .array _ => true
    | _ => target.isNamed TypeRef.sequences || target.isNamed TypeRef.maps

/-- Which type a collection holds, if it is one and has an argument for it. -/
def elementType? (t : FlatType) : Option (Option FlatType) := do
  let target ← t.dereferenced?
  if ← target.isCollection? then
    return if target.isNamed TypeRef.maps then target.arguments[1]? else target.arguments.head?
  else return none

def isText? (t : FlatType) : Option Bool := do
  let target ← t.dereferenced?
  return target.isNamed ["String", "str"] ||
    (target.isNamed ["Cow"] && target.arguments.any isStr)

def refersToNamed? (names : List String) (t : FlatType) : Option Bool := do
  return (← t.dereferenced?).isNamed names

def isInteger? : FlatType → Option Bool := refersToNamed? TypeRef.integers

def isFloat? : FlatType → Option Bool := refersToNamed? TypeRef.floats

def isBigInteger? : FlatType → Option Bool := refersToNamed? TypeRef.bigIntegers

def isNumeric? (t : FlatType) : Option Bool := do
  if ← t.isInteger? then return true
  else if ← t.isFloat? then return true
  else t.isBigInteger?

def isSized? (t : FlatType) : Option Bool := do
  if ← t.isCollection? then return true else t.isText?

mutual

def isCopy? : FlatType → Option Bool
  | mk .unit _ _ => some true
  | mk (.reference _ isMutable) _ _ => some !isMutable
  | mk .tuple _ arguments | mk (.array _) _ arguments => allCopy? arguments
  | mk .slice _ _ | mk .traitObject _ _ => some false
  | mk .path path arguments =>
    let t := mk .path path arguments
    if t.isNamed TypeRef.integers || t.isNamed TypeRef.floats || t.isNamed ["bool", "char"] then
      some true
    else if t.isNullable then firstCopy? arguments
    else some false

def firstCopy? : List FlatType → Option Bool
  | [] => none
  | t :: _ => isCopy? t

def allCopy? : List FlatType → Option Bool
  | [] => some true
  | t :: others => do if ← isCopy? t then allCopy? others else return false

end

/-! ### New types -/

def unit : FlatType := mk .unit "" []

def named (path : String) (arguments : List FlatType) : FlatType := mk .path path arguments

/-- The tuple of the elements, or the unit type if there are none. -/
def tuple (elements : List FlatType) : FlatType :=
  if elements.isEmpty then unit else mk .tuple "" elements

def ownedKey? (t : FlatType) : Option (FlatType × TypeRef.KeyConversion) :=
  match t.shape with
  | .reference .. => do
    let inner ← t.arguments[0]?
    if inner.isStr then return (named "String" [], .toOwned)
    else if inner.shape = .slice then return (named "Vec" inner.arguments, .toVec)
    else if ← inner.isCopy? then return (inner, .deref)
    else return (inner, .clone)
  | _ => do
    if ← t.isCopy? then return (t, .copy) else return (t, .clone)

/-- The owned keys of parameters, with the expressions for them. -/
def keyParts? : List (String × FlatType) → Option (List (FlatType × String))
  | [] => some []
  | (name, t) :: others => do
    let (key, how) ← t.ownedKey?
    return (key, how.apply name) :: (← keyParts? others)

/-- The type of cache keys for the parameters, and the expression for one. -/
def cacheKey? (parameters : List (String × FlatType)) : Option (FlatType × String) := do
  match ← keyParts? parameters with
  | [] => return (unit, "()")
  | [part] => return part
  | parts =>
    return (tuple (parts.map Prod.fst), "(" ++ ", ".intercalate (parts.map Prod.snd) ++ ")")

/-! ### Writing -/

mutual

def render? : FlatType → Option String
  | mk .path path arguments =>
    if arguments.isEmpty then some path
    else do return path ++ "<" ++ ", ".intercalate (← renderAll? arguments) ++ ">"
  | mk (.reference lifetime isMutable) _ arguments => do
    return "&" ++ (match lifetime with
      | some name => "'" ++ name ++ " "
      | none => "") ++ (if isMutable then "mut " else "") ++ (← renderFirst? arguments)
  | mk .slice _ arguments => do return "[" ++ (← renderFirst? arguments) ++ "]"
  | mk (.array length) _ arguments => do
    return "[" ++ (← renderFirst? arguments) ++ "; " ++ length ++ "]"
  | mk .tuple _ arguments =>
    if arguments.length = 1 then do return "(" ++ (← renderFirst? arguments) ++ ",)"
    else do return "(" ++ ", ".intercalate (← renderAll? arguments) ++ ")"
  | mk .unit _ _ => some "()"
  | mk .traitObject path _ => some ("dyn " ++ path)

def renderFirst? : List FlatType → Option String
  | [] => none
  | t :: _ => render? t

def renderAll? : List FlatType → Option (List String)
  | [] => some []
  | t :: others => do return (← render? t) :: (← renderAll? others)

end

/-! ### Reading -/

/-- What is read, or the form that is not supported. Missing if an argument was. -/
abbrev Reading (α : Type) : Type := ExceptT UnsupportedForm Option α

/-- A reading that misses no argument. -/
def Reading.of {α : Type} (x : Except UnsupportedForm α) : Reading α :=
  ExceptT.mk (some x)

theorem Reading.of_bind {α α' β β' : Type} {x : Except UnsupportedForm α} {h : α → α'}
    {f : α' → Reading β'} {g : α → Except UnsupportedForm β} {k : β → β'}
    (same : ∀ a, f (h a) = Reading.of ((g a).map k)) :
    (Reading.of (x.map h) >>= f) = Reading.of ((x >>= g).map k) := by
  cases x with
  | error e => rfl
  | ok a => exact same a

mutual

def ofExpr : Code.TypeExpr → Reading FlatType
  | .path true _ => throw .qualifiedSelf
  | .path false written => do
    let (path, arguments) ← ofPath written
    return named path arguments
  | .reference lifetime isMutable referent => do
    return mk (.reference lifetime isMutable) "" [← ofExpr referent]
  | .slice element => do return mk .slice "" [← ofExpr element]
  | .array _ none => throw .arrayLength
  | .array element (some length) => do return mk (.array length) "" [← ofExpr element]
  | .tuple elements => do return tuple (← ofExprs elements)
  | .parenthesized inner => ofExpr inner
  | .traitObject _ bounds _ => do
    return mk .traitObject (" + ".intercalate (← ofBounds bounds)) []
  | .implTrait _ => throw .implTrait
  | .function _ => throw .functionPointer
  | .pointer _ => throw .rawPointer
  | .never => throw .never
  | .macroCall _ | .inferred | .other _ => throw .other

def ofExprs : List Code.TypeExpr → Reading (List FlatType)
  | [] => return []
  | t :: others => do return (← ofExpr t) :: (← ofExprs others)

def ofPath : Code.Path → Reading (String × List FlatType)
  | .mk absolute segments => do
    let (path, arguments) ← ofSegments segments
    return ((if absolute then "::" else "") ++ path, arguments)

def ofSegments : List Code.Segment → Reading (String × List FlatType)
  | [] => return ("", [])
  | [.mk name arguments] => do return (name, ← ofArguments arguments)
  | .mk name .none :: more => do
    let (others, arguments) ← ofSegments more
    return (name ++ "::" ++ others, arguments)
  | .mk _ (.angled _) :: _ => throw .innerArguments
  | .mk _ (.signature _) :: _ => throw .signature

def ofArguments : Code.Arguments → Reading (List FlatType)
  | .none => return []
  | .angled arguments => ofArgumentList arguments
  | .signature _ => throw .signature

def ofArgumentList : List Code.Argument → Reading (List FlatType)
  | [] => return []
  | .type t :: others => do return (← ofExpr t) :: (← ofArgumentList others)
  | .other :: _ => throw .genericArgument

def ofBounds : List Code.Bound → Reading (List String)
  | [] => return []
  | .trait written :: others => do
    let (path, arguments) ← ofPath written
    let text ← (named path arguments).render?
    return text :: (← ofBounds others)
  | .lifetime name :: others => do return ("'" ++ name) :: (← ofBounds others)
  | .capture :: _ | .other _ :: _ => throw .objectBound

end

def parse (text : String) : Option (Except TypeError FlatType) :=
  match Code.TypeExpr.parse? text with
  | none => some (.error (.invalid text))
  | some written => (ofExpr written).run.map fun read => read.mapError (.unsupported text)

/-! ### Assignability -/

def libraryTraits? (t : FlatType) : Option (Option (List String)) := do
  if (← t.isInteger?) then return some TypeRef.scalarTraits
  else if (← t.refersToNamed? ["bool", "char"]) then return some TypeRef.scalarTraits
  else if (← t.isFloat?) then return some TypeRef.floatTraits
  else if (← t.isText?) then return some TypeRef.stringTraits
  else if (← t.isCollection?) then return some TypeRef.collectionTraits
  else return none

def assignability? (declared target : FlatType) (hierarchy : Hierarchy) :
    Option Assignability := do
  let declared ← declared.dereferenced?
  let goal := target.simpleName
  if declared.shape = target.shape ∧ declared.simpleName = goal then return .assignable
  else
    match ← declared.libraryTraits? with
    | some traits =>
      if traits.contains goal then return .assignable
      else
        let library := (← target.libraryTraits?).isSome
        return if TypeRef.knownTraits.contains goal || library then .notAssignable else .unknown
    | none =>
      let start := declared.simpleName
      return if (hierarchy.supertypes? start).isNone then .unknown
        else if TypeRef.generatedTraits.contains goal || hierarchy.reaches start goal then
          .assignable
        else .notAssignable

end FlatType

/-! ### Types that miss nothing

Forms that keep exactly the parts they have are types with their shape apart from their arguments,
and every question about them has the same answer.
-/

namespace TypeRef

mutual

def flat : TypeRef → FlatType
  | path name arguments => .mk .path name (flats arguments)
  | reference lifetime isMutable referent =>
    .mk (.reference lifetime isMutable) "" [referent.flat]
  | slice element => .mk .slice "" [element.flat]
  | array element length => .mk (.array length) "" [element.flat]
  | tuple first others => .mk .tuple "" (first.flat :: flats others)
  | unit => .mk .unit "" []
  | traitObject bounds => .mk .traitObject (" + ".intercalate bounds) []

def flats : List TypeRef → List FlatType
  | [] => []
  | t :: others => t.flat :: flats others

end

theorem flats_eq_map : ∀ ts : List TypeRef, flats ts = ts.map flat
  | [] => rfl
  | t :: others => congrArg (t.flat :: ·) (flats_eq_map others)

variable (t : TypeRef)

@[simp] theorem shape_flat : t.flat.shape = t.shape := by cases t <;> rfl

@[simp] theorem path_flat : t.flat.path = t.qualifiedName := by cases t <;> rfl

@[simp] theorem arguments_flat : t.flat.arguments = t.arguments.map flat := by
  cases t with
  | path _ arguments => exact flats_eq_map arguments
  | tuple first others => exact flats_eq_map (first :: others)
  | _ => rfl

@[simp] theorem simpleName_flat : t.flat.simpleName = t.simpleName := by
  rw [FlatType.simpleName, path_flat, simpleName]

@[simp] theorem isNamed_flat (names : List String) : t.flat.isNamed names = t.isNamed names := by
  cases t <;> simp [FlatType.isNamed, isNamed, shape, simpleName, qualifiedName]

@[simp] theorem isStr_flat : t.flat.isStr = t.isStr := by
  cases t <;> simp [FlatType.isStr, isStr, shape, qualifiedName]

@[simp] theorem dereferenced?_flat : t.flat.dereferenced? = some t.dereferenced.flat := by
  cases t <;> rfl

/-- The content of an `Option` is the one argument that it has. -/
theorem optionContent?_eq_ite :
    t.optionContent? =
      if t.isNamed ["Option"] && t.arguments.length = 1 then t.arguments[0]? else none := by
  rcases t with ⟨name, _ | ⟨first, _ | ⟨second, others⟩⟩⟩ | _ | _ | _ | _ | _ | _ <;>
    simp [optionContent?, arguments, isNamed]

theorem isNullable_flat : t.flat.isNullable = t.isNullable := by
  rw [isNullable, optionContent?_eq_ite, FlatType.isNullable, isNamed_flat, arguments_flat,
    List.length_map]
  split <;> simp_all

@[simp] theorem valueType?_flat : t.flat.valueType? = some t.valueType.flat := by
  rw [FlatType.valueType?, isNullable_flat, isNullable, valueType]
  cases found : t.optionContent? with
  | none => rfl
  | some content =>
    rw [optionContent?_eq_ite] at found
    simp [(Option.ite_none_right_eq_some.mp found).2]

@[simp] theorem isCollection?_flat : t.flat.isCollection? = some t.isCollection := by
  rw [FlatType.isCollection?, dereferenced?_flat, isCollection]
  cases t.dereferenced <;> simp [shape, isPlainCollection]

@[simp] theorem elementType?_flat : t.flat.elementType? = some (t.elementType?.map flat) := by
  simp only [FlatType.elementType?, elementType?, isMap, dereferenced?_flat, isCollection?_flat,
    isNamed_flat, arguments_flat, Option.bind_eq_bind, Option.bind_some, Option.pure_def,
    List.getElem?_map, List.head?_map, ← apply_ite (Option.map flat)]
  split <;> rfl

@[simp] theorem isText?_flat : t.flat.isText? = some t.isText := by
  simp [FlatType.isText?, isText, Function.comp_def]

@[simp] theorem refersToNamed?_flat (names : List String) :
    t.flat.refersToNamed? names = some (t.dereferenced.isNamed names) := by
  simp [FlatType.refersToNamed?]

@[simp] theorem isInteger?_flat : t.flat.isInteger? = some t.isInteger := refersToNamed?_flat ..

@[simp] theorem isFloat?_flat : t.flat.isFloat? = some t.isFloat := refersToNamed?_flat ..

@[simp] theorem isBigInteger?_flat : t.flat.isBigInteger? = some t.isBigInteger :=
  refersToNamed?_flat ..

theorem isNumeric?_flat : t.flat.isNumeric? = some t.isNumeric := by
  cases integer : t.isInteger <;> cases float : t.isFloat <;>
    simp [FlatType.isNumeric?, isNumeric, integer, float]

theorem isSized?_flat : t.flat.isSized? = some t.isSized := by
  cases collection : t.isCollection <;> simp [FlatType.isSized?, isSized, collection]

/-- What a type is named does not depend on its arguments. -/
theorem isNamed_mk (name : String) (arguments : List FlatType) (names : List String) :
    (FlatType.mk .path name arguments).isNamed names = (named name).isNamed names := by
  simp [FlatType.isNamed, FlatType.shape, FlatType.simpleName, FlatType.path, isNamed, named]

theorem isNamed_append (names others : List String) :
    t.isNamed (names ++ others) = (t.isNamed names || t.isNamed others) := by
  cases t <;> simp [isNamed]

theorem isCopy?_mk_path (name : String) (arguments : List FlatType) :
    (FlatType.mk .path name arguments).isCopy? =
      if (named name).isNamed (integers ++ floats ++ ["bool", "char"]) then some true
      else if (named name).isNamed ["Option"] && arguments.length = 1 then
        FlatType.firstCopy? arguments
      else some false := by
  simp only [FlatType.isCopy?, FlatType.isNullable, isNamed_mk, isNamed_append, FlatType.arguments]
  rfl

mutual

theorem isCopy?_flat : ∀ t : TypeRef, t.flat.isCopy? = some t.isCopy
  | path name arguments => by
    rw [flat, isCopy?_mk_path, isCopy, ← named]
    cases (named name).isNamed (integers ++ floats ++ ["bool", "char"])
    case true => rfl
    cases (named name).isNamed ["Option"]
    case false => rfl
    -- Of an option, the one argument decides; any other number of them is no option.
    match arguments with
    | [] => rfl
    | [content] => simp [flats, FlatType.firstCopy?, isCopy?_flat content, allCopy]
    | _ :: _ :: _ => simp [flats]
  | reference .. | slice _ | unit | traitObject _ => by
    simp [flat, FlatType.isCopy?, isCopy]
  | array element _ => by
    cases copied : element.isCopy <;>
      simp [flat, FlatType.isCopy?, FlatType.allCopy?, isCopy?_flat element, isCopy, copied]
  | tuple first others => by
    cases copied : first.isCopy <;>
      simp [flat, FlatType.isCopy?, FlatType.allCopy?, isCopy?_flat first, allCopy?_flats others,
        isCopy, copied]

theorem allCopy?_flats : ∀ ts : List TypeRef, FlatType.allCopy? (flats ts) = some (allCopy ts)
  | [] => by rw [flats, FlatType.allCopy?, allCopy]
  | t :: others => by
    cases copied : t.isCopy <;>
      simp [flats, FlatType.allCopy?, isCopy?_flat t, allCopy?_flats others, allCopy, copied]

end

theorem ownedKey_reference (lifetime : Option String) (isMutable : Bool) (referent : TypeRef) :
    (reference lifetime isMutable referent).ownedKey =
      if referent.isStr then (named "String", .toOwned)
      else if referent.shape = .slice then (path "Vec" referent.arguments, .toVec)
      else if referent.isCopy then (referent, .deref)
      else (referent, .clone) := by
  cases referent <;> rfl

theorem ownedKey_of_not_reference (plain : t.isReference = false) :
    t.ownedKey = (t, if t.isCopy then .copy else .clone) := by
  cases t with
  | reference => cases plain
  | _ => rfl

theorem ownedKey?_flat : t.flat.ownedKey? = some (t.ownedKey.1.flat, t.ownedKey.2) := by
  cases t with
  | reference lifetime isMutable referent =>
    have index : (reference lifetime isMutable referent).flat.arguments[0]? =
        some referent.flat := rfl
    rw [FlatType.ownedKey?, shape_flat, shape, index, ownedKey_reference]
    simp only [Option.bind_eq_bind, Option.bind_some, isStr_flat, shape_flat, isCopy?_flat,
      arguments_flat]
    split
    · rfl
    · split
      · rw [flat, flats_eq_map]
        rfl
      · split <;> rfl
  | _ =>
    rw [FlatType.ownedKey?, shape_flat, shape, isCopy?_flat, ownedKey_of_not_reference _ rfl]
    simp only [Option.bind_eq_bind, Option.bind_some]
    split <;> rfl

/-! ### The same texts -/

theorem render_append_renderMore (first : TypeRef) (others : List TypeRef) :
    first.render ++ renderMore others = ", ".intercalate ((first :: others).map render) := by
  induction others generalizing first with
  | nil => simp [renderMore]
  | cons second others ih =>
    rw [renderMore, List.map_cons, List.map_cons, String.intercalate_cons_cons, ← List.map_cons,
      ← ih, String.append_assoc, String.append_assoc]

theorem render_path_of_arguments (name : String) (first : TypeRef) (others : List TypeRef) :
    (path name (first :: others)).render =
      name ++ "<" ++ ", ".intercalate ((first :: others).map render) ++ ">" := by
  rw [← render_append_renderMore, ← String.append_assoc, render]

theorem render_tuple_of_elements (first second : TypeRef) (others : List TypeRef) :
    (tuple first (second :: others)).render =
      "(" ++ ", ".intercalate ((first :: second :: others).map render) ++ ")" := by
  rw [← render_append_renderMore, ← String.append_assoc, render]

mutual

theorem render?_flat : ∀ t : TypeRef, t.flat.render? = some t.render
  | path name [] => rfl
  | path name (first :: others) => by
    rw [render_path_of_arguments, flat, FlatType.render?, renderAll?_flats (first :: others)]
    rfl
  | reference lifetime isMutable referent => by
    cases lifetime <;>
      simp [flat, FlatType.render?, FlatType.renderFirst?, render?_flat referent, render]
  | slice element => by
    simp [flat, FlatType.render?, FlatType.renderFirst?, render?_flat element, render]
  | array element length => by
    simp [flat, FlatType.render?, FlatType.renderFirst?, render?_flat element, render]
  | tuple first [] => by
    simp [flat, flats, FlatType.render?, FlatType.renderFirst?, render?_flat first, render]
  | tuple first (second :: others) => by
    rw [render_tuple_of_elements, flat, FlatType.render?, FlatType.renderAll?, render?_flat first,
      renderAll?_flats (second :: others)]
    rfl
  | unit => rfl
  | traitObject bounds => rfl

theorem renderAll?_flats : ∀ ts : List TypeRef,
    FlatType.renderAll? (flats ts) = some (ts.map render)
  | [] => rfl
  | t :: others => by
    simp [flats, FlatType.renderAll?, render?_flat t, renderAll?_flats others]

end

/-! ### The same readings -/

open FlatType (Reading)

mutual

theorem ofExpr_flat : ∀ e : Code.TypeExpr,
    FlatType.ofExpr e = Reading.of ((ofExpr e).map flat)
  | .path true _ => rfl
  | .path false written => by
    rw [FlatType.ofExpr, ofExpr, ofPath_flat written]
    exact Reading.of_bind fun _ => rfl
  | .reference lifetime isMutable referent => by
    rw [FlatType.ofExpr, ofExpr, ofExpr_flat referent]
    exact Reading.of_bind fun _ => rfl
  | .slice element => by
    rw [FlatType.ofExpr, ofExpr, ofExpr_flat element]
    exact Reading.of_bind fun _ => rfl
  | .array _ none => rfl
  | .array element (some length) => by
    rw [FlatType.ofExpr, ofExpr, ofExpr_flat element]
    exact Reading.of_bind fun _ => rfl
  | .tuple elements => by
    rw [FlatType.ofExpr, ofExpr, ofExprs_flat elements]
    exact Reading.of_bind fun elements => by cases elements <;> rfl
  | .parenthesized inner => by
    rw [FlatType.ofExpr, ofExpr, ofExpr_flat inner]
  | .traitObject _ bounds _ => by
    rw [FlatType.ofExpr, ofExpr, ofBounds_flat bounds]
    exact Reading.of_bind fun _ => rfl
  | .implTrait _ | .function _ | .pointer _ | .never | .macroCall _ | .inferred | .other _ => rfl

theorem ofExprs_flat : ∀ es : List Code.TypeExpr,
    FlatType.ofExprs es = Reading.of ((ofExprs es).map flats)
  | [] => rfl
  | e :: others => by
    rw [FlatType.ofExprs, ofExprs, ofExpr_flat e]
    refine Reading.of_bind fun t => ?_
    rw [ofExprs_flat others]
    exact Reading.of_bind fun _ => rfl

theorem ofPath_flat : ∀ written : Code.Path,
    FlatType.ofPath written =
      Reading.of ((ofPath written).map fun (name, arguments) => (name, flats arguments))
  | .mk absolute segments => by
    rw [FlatType.ofPath, ofPath, ofSegments_flat segments]
    exact Reading.of_bind fun _ => rfl

theorem ofSegments_flat : ∀ segments : List Code.Segment,
    FlatType.ofSegments segments =
      Reading.of ((ofSegments segments).map fun (name, arguments) => (name, flats arguments))
  | [] => rfl
  | [.mk name arguments] => by
    rw [FlatType.ofSegments, ofSegments, ofArguments_flat arguments]
    exact Reading.of_bind fun _ => rfl
  | .mk name .none :: second :: more => by
    rw [FlatType.ofSegments, ofSegments, ofSegments_flat (second :: more)]
    · exact Reading.of_bind fun _ => rfl
    all_goals exact List.cons_ne_nil _ _
  | .mk _ (.angled _) :: _ :: _ => rfl
  | .mk _ (.signature _) :: _ :: _ => rfl

theorem ofArguments_flat : ∀ arguments : Code.Arguments,
    FlatType.ofArguments arguments = Reading.of ((ofArguments arguments).map flats)
  | .none => rfl
  | .angled arguments => by
    rw [FlatType.ofArguments, ofArguments, ofArgumentList_flat arguments]
  | .signature _ => rfl

theorem ofArgumentList_flat : ∀ arguments : List Code.Argument,
    FlatType.ofArgumentList arguments = Reading.of ((ofArgumentList arguments).map flats)
  | [] => rfl
  | .type e :: others => by
    rw [FlatType.ofArgumentList, ofArgumentList, ofExpr_flat e]
    refine Reading.of_bind fun t => ?_
    rw [ofArgumentList_flat others]
    exact Reading.of_bind fun _ => rfl
  | .other :: _ => rfl

theorem ofBounds_flat : ∀ bounds : List Code.Bound,
    FlatType.ofBounds bounds = Reading.of ((ofBounds bounds).map id)
  | [] => rfl
  | .trait written :: others => by
    rw [FlatType.ofBounds, ofBounds, ofPath_flat written]
    refine Reading.of_bind fun (name, arguments) => ?_
    have text : (FlatType.named name (flats arguments)).render? =
        some (path name arguments).render := render?_flat (path name arguments)
    simp only [text]
    change (FlatType.ofBounds others >>= fun texts =>
      pure ((path name arguments).render :: texts)) = _
    rw [ofBounds_flat others]
    exact Reading.of_bind fun _ => rfl
  | .lifetime name :: others => by
    rw [FlatType.ofBounds, ofBounds, ofBounds_flat others]
    exact Reading.of_bind fun _ => rfl
  | .capture :: _ | .other _ :: _ => rfl

end

theorem parse_flat (text : String) :
    FlatType.parse text = some ((parse text).map flat) := by
  rw [FlatType.parse, parse]
  cases Code.TypeExpr.parse? text with
  | none => rfl
  | some written =>
    simp only [ofExpr_flat]
    cases ofExpr written <;> rfl

theorem libraryTraits?_flat : t.flat.libraryTraits? = some t.libraryTraits? := by
  simp only [FlatType.libraryTraits?, libraryTraits?, isInteger?_flat, refersToNamed?_flat,
    isFloat?_flat, isText?_flat, isCollection?_flat, Option.bind_eq_bind, Option.bind_some]
  cases t.isInteger <;> cases t.dereferenced.isNamed ["bool", "char"] <;> cases t.isFloat <;>
    cases t.isText <;> cases t.isCollection <;> rfl

theorem assignability?_flat (target : TypeRef) (hierarchy : Hierarchy) :
    t.flat.assignability? target.flat hierarchy = some (t.assignability target hierarchy) := by
  simp only [FlatType.assignability?, assignability, dereferenced?_flat, shape_flat,
    simpleName_flat, libraryTraits?_flat, Option.bind_eq_bind, Option.bind_some, Option.pure_def]
  by_cases same : t.dereferenced.shape = target.shape ∧
      t.dereferenced.simpleName = target.simpleName
  · rw [if_pos same, if_pos same]
  · rw [if_neg same, if_neg same]
    cases t.dereferenced.libraryTraits? with
    | none => rfl
    | some traits => exact (apply_ite some ..).symm

/-- The type and expression of cache keys by those of their parts. -/
def keyOf : List (TypeRef × String) → TypeRef × String
  | [] => (unit, "()")
  | [part] => part
  | first :: others =>
    (tuple first.1 (others.map Prod.fst),
      "(" ++ ", ".intercalate (first.2 :: others.map Prod.snd) ++ ")")

theorem keyParts?_flat (parameters : List (String × TypeRef)) :
    FlatType.keyParts? (parameters.map fun (name, t) => (name, t.flat)) =
      some (parameters.map fun (name, t) => (t.ownedKey.1.flat, t.ownedKey.2.apply name)) := by
  induction parameters with
  | nil => rfl
  | cons parameter others ih => simp [FlatType.keyParts?, ownedKey?_flat, ih]

theorem cacheKey?_flat (parameters : List (String × TypeRef)) :
    FlatType.cacheKey? (parameters.map fun (name, t) => (name, t.flat)) =
      let key := keyOf (parameters.map fun (name, t) => (t.ownedKey.1, t.ownedKey.2.apply name))
      some (key.1.flat, key.2) := by
  rw [FlatType.cacheKey?, keyParts?_flat]
  match parameters with
  | [] => rfl
  | [_] => rfl
  | _ :: _ :: _ =>
    simp [keyOf, flat, FlatType.tuple, flats_eq_map, Function.comp_def]

end TypeRef

/-! ### Types that can be built -/

namespace FlatType

/-- Types that are read or put together, and what is got from them. -/
inductive Reachable : FlatType → Prop
  | parse {text : String} {t : FlatType} (read : parse text = some (.ok t)) : Reachable t
  | named (path : String) {arguments : List FlatType} (parts : ∀ t ∈ arguments, Reachable t) :
    Reachable (named path arguments)
  | tuple {elements : List FlatType} (parts : ∀ t ∈ elements, Reachable t) :
    Reachable (tuple elements)
  | unit : Reachable unit
  | argument {t u : FlatType} (whole : Reachable t) (member : u ∈ t.arguments) : Reachable u
  | dereferenced {t u : FlatType} (whole : Reachable t) (found : t.dereferenced? = some u) :
    Reachable u
  | valueType {t u : FlatType} (whole : Reachable t) (found : t.valueType? = some u) : Reachable u
  | elementType {t u : FlatType} (whole : Reachable t) (found : t.elementType? = some (some u)) :
    Reachable u
  | ownedKey {t u : FlatType} {how : TypeRef.KeyConversion} (whole : Reachable t)
      (found : t.ownedKey? = some (u, how)) : Reachable u
  | cacheKey {parameters : List (String × FlatType)} {u : FlatType} {expr : String}
      (parts : ∀ p ∈ parameters, Reachable p.2) (found : cacheKey? parameters = some (u, expr)) :
    Reachable u

theorem exists_map_flat {ts : List FlatType} (forms : ∀ t ∈ ts, ∃ v : TypeRef, v.flat = t) :
    ∃ vs : List TypeRef, vs.map TypeRef.flat = ts := by
  induction ts with
  | nil => exact ⟨[], rfl⟩
  | cons t ts ih =>
    obtain ⟨⟨v, rfl⟩, others⟩ := List.forall_mem_cons.mp forms
    obtain ⟨vs, rfl⟩ := ih others
    exact ⟨v :: vs, rfl⟩

theorem exists_map_parameters {parameters : List (String × FlatType)}
    (forms : ∀ p ∈ parameters, ∃ v : TypeRef, v.flat = p.2) :
    ∃ vs : List (String × TypeRef), (vs.map fun (name, v) => (name, v.flat)) = parameters := by
  induction parameters with
  | nil => exact ⟨[], rfl⟩
  | cons p others ih =>
    obtain ⟨⟨v, same⟩, forms⟩ := List.forall_mem_cons.mp forms
    obtain ⟨vs, rfl⟩ := ih forms
    exact ⟨(p.1, v) :: vs, by simp [same]⟩

/-- Every type that can be built keeps exactly the parts of its form. -/
theorem Reachable.exists_flat {t : FlatType} (reachable : Reachable t) :
    ∃ v : TypeRef, v.flat = t := by
  induction reachable with
  | @parse text t read =>
    rw [TypeRef.parse_flat, Option.some.injEq] at read
    cases known : TypeRef.parse text with
    | error e => simp [known, Except.map] at read
    | ok v =>
      rw [known] at read
      exact ⟨v, Except.ok.inj read⟩
  | named path _ forms =>
    obtain ⟨vs, rfl⟩ := exists_map_flat forms
    exact ⟨.path path vs, by rw [TypeRef.flat, TypeRef.flats_eq_map]; rfl⟩
  | tuple _ forms =>
    obtain ⟨_ | ⟨v, vs⟩, rfl⟩ := exists_map_flat forms
    · exact ⟨.unit, rfl⟩
    · exact ⟨.tuple v vs, by rw [TypeRef.flat, TypeRef.flats_eq_map]; rfl⟩
  | unit => exact ⟨.unit, rfl⟩
  | argument _ member form =>
    obtain ⟨v, rfl⟩ := form
    rw [TypeRef.arguments_flat] at member
    obtain ⟨u, -, same⟩ := List.mem_map.mp member
    exact ⟨u, same⟩
  | dereferenced _ found form =>
    obtain ⟨v, rfl⟩ := form
    rw [TypeRef.dereferenced?_flat] at found
    exact ⟨_, Option.some.inj found⟩
  | valueType _ found form =>
    obtain ⟨v, rfl⟩ := form
    rw [TypeRef.valueType?_flat] at found
    exact ⟨_, Option.some.inj found⟩
  | elementType _ found form =>
    obtain ⟨v, rfl⟩ := form
    rw [TypeRef.elementType?_flat, Option.some.injEq, Option.map_eq_some_iff] at found
    obtain ⟨u, -, same⟩ := found
    exact ⟨u, same⟩
  | ownedKey _ found form =>
    obtain ⟨v, rfl⟩ := form
    rw [TypeRef.ownedKey?_flat] at found
    cases found
    exact ⟨_, rfl⟩
  | cacheKey _ found forms =>
    obtain ⟨vs, rfl⟩ := exists_map_parameters forms
    rw [TypeRef.cacheKey?_flat] at found
    cases found
    exact ⟨_, rfl⟩

/-- A type has as many arguments as its shape asks for, and a path only where it is named. -/
structure HasShape (t : FlatType) : Prop where
  reference : ∀ lifetime isMutable, t.shape = .reference lifetime isMutable →
    t.arguments.length = 1
  slice : t.shape = .slice → t.arguments.length = 1
  array : ∀ length, t.shape = .array length → t.arguments.length = 1
  tuple : t.shape = .tuple → 1 ≤ t.arguments.length
  unit : t.shape = .unit → t.arguments = []
  traitObject : t.shape = .traitObject → t.arguments = []
  path : t.path ≠ "" → t.shape = .path ∨ t.shape = .traitObject

theorem hasShape_flat (v : TypeRef) : HasShape v.flat := by
  constructor <;> cases v <;> simp [TypeRef.shape, TypeRef.arguments, TypeRef.qualifiedName]

/-- The type itself, an argument of it, an argument of that, and so on. -/
inductive IsPart : FlatType → FlatType → Prop
  | self (t : FlatType) : IsPart t t
  | argument {t u part : FlatType} (member : u ∈ t.arguments) (inside : IsPart part u) :
    IsPart part t

theorem IsPart.hasShape {part t : FlatType} (inside : IsPart part t) :
    ∀ v : TypeRef, v.flat = t → part.HasShape := by
  induction inside with
  | self t =>
    rintro v rfl
    exact hasShape_flat v
  | argument member _ ih =>
    rintro v rfl
    rw [TypeRef.arguments_flat] at member
    obtain ⟨u, -, same⟩ := List.mem_map.mp member
    exact ih u same

/-- Every question about the type has the answer of the form, and so has every text of it. -/
structure Answers (t : FlatType) (v : TypeRef) : Prop where
  dereferenced : t.dereferenced? = some v.dereferenced.flat
  valueType : t.valueType? = some v.valueType.flat
  isCollection : t.isCollection? = some v.isCollection
  elementType : t.elementType? = some (v.elementType?.map TypeRef.flat)
  isText : t.isText? = some v.isText
  isInteger : t.isInteger? = some v.isInteger
  isFloat : t.isFloat? = some v.isFloat
  isBigInteger : t.isBigInteger? = some v.isBigInteger
  isNumeric : t.isNumeric? = some v.isNumeric
  isSized : t.isSized? = some v.isSized
  isCopy : t.isCopy? = some v.isCopy
  ownedKey : t.ownedKey? = some (v.ownedKey.1.flat, v.ownedKey.2)
  render : t.render? = some v.render
  assignability : ∀ (target : TypeRef) (hierarchy : Hierarchy),
    t.assignability? target.flat hierarchy = some (v.assignability target hierarchy)

theorem answers_flat (v : TypeRef) : v.flat.Answers v where
  dereferenced := v.dereferenced?_flat
  valueType := v.valueType?_flat
  isCollection := v.isCollection?_flat
  elementType := v.elementType?_flat
  isText := v.isText?_flat
  isInteger := v.isInteger?_flat
  isFloat := v.isFloat?_flat
  isBigInteger := v.isBigInteger?_flat
  isNumeric := v.isNumeric?_flat
  isSized := v.isSized?_flat
  isCopy := v.isCopy?_flat
  ownedKey := v.ownedKey?_flat
  render := v.render?_flat
  assignability := v.assignability?_flat

/-- Types that can be built have the arguments that their shapes ask for at every depth, and are
what the forms without room for a missing argument are. No reading, question or key misses one. -/
theorem shaped_of_reachable :
    (∀ text, parse text = some ((TypeRef.parse text).map TypeRef.flat)) ∧
      (∀ t, Reachable t → (∀ part, IsPart part t → part.HasShape) ∧
        ∃ v : TypeRef, v.flat = t ∧ t.Answers v) ∧
      (∀ parameters : List (String × FlatType), (∀ p ∈ parameters, Reachable p.2) →
        ∃ key, cacheKey? parameters = some key) ∧
      ∀ m : Model.Method, cacheKey? (m.parameters.map fun p => (p.name, p.type.flat)) =
        some (m.cacheKey.1.flat, m.cacheKey.2) := by
  refine ⟨TypeRef.parse_flat, fun t reachable => ?_, fun parameters reachable => ?_, fun m => ?_⟩
  · obtain ⟨v, rfl⟩ := reachable.exists_flat
    exact ⟨fun part inside => inside.hasShape v rfl, v, rfl, answers_flat v⟩
  · obtain ⟨vs, rfl⟩ := exists_map_parameters fun p member => (reachable p member).exists_flat
    exact ⟨_, TypeRef.cacheKey?_flat vs⟩
  · have key := TypeRef.cacheKey?_flat (m.parameters.map fun p => (p.name, p.type))
    rw [List.map_map, List.map_map] at key
    exact key

/-- The owned key of a borrowed slice is put together from parts of it. -/
theorem shaped_of_reachable_slice : ∃ t key, parse "&[Option<u8>]" = some (.ok t) ∧
    t.ownedKey? = some (key, .toVec) ∧ key.render? = some "Vec<Option<u8>>" ∧
      ∀ part, IsPart part key → part.HasShape := by
  obtain ⟨v, read, known⟩ : ∃ v, TypeRef.parse "&[Option<u8>]" = .ok v ∧
      (v.ownedKey.1.render, v.ownedKey.2) = ("Vec<Option<u8>>", .toVec) :=
    map_eq_ok.mp (by decide +kernel)
  obtain ⟨written, how⟩ := Prod.mk.inj known
  have read' : parse "&[Option<u8>]" = some (.ok v.flat) := by rw [TypeRef.parse_flat, read]; rfl
  have key := v.ownedKey?_flat
  rw [how] at key
  exact ⟨v.flat, v.ownedKey.1.flat, read', key, by rw [TypeRef.render?_flat, written],
    (shaped_of_reachable.2.1 _ (.ownedKey (.parse read') key)).1⟩

end FlatType

end Companion

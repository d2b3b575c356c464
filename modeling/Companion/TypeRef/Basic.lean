import Companion.Code.Grammar
import Companion.Text.Basic

/-! Types of fields, parameters and results, reduced to the forms that generated code handles.

A form keeps exactly the parts it has: a reference always has a referent and a tuple at least one
element, so that no question about a type can miss an argument.
-/

set_option autoImplicit false

namespace Companion

inductive TypeRef where
  /-- A named type with its generic arguments. -/
  | path (name : String) (arguments : List TypeRef)
  | reference (lifetime : Option String) (isMutable : Bool) (referent : TypeRef)
  | slice (element : TypeRef)
  /-- An array, with its length in decimal digits. -/
  | array (element : TypeRef) (length : String)
  | tuple (first : TypeRef) (others : List TypeRef)
  | unit
  /-- A trait object, with its bounds as they are written. -/
  | traitObject (bounds : List String)
  deriving Repr, BEq, Inhabited

/-- The form of a type without its arguments. -/
inductive Shape where
  | path
  | reference (lifetime : Option String) (isMutable : Bool)
  | slice
  | array (length : String)
  | tuple
  | unit
  | traitObject
  deriving DecidableEq, Repr

/-- Written forms that generated code cannot handle. -/
inductive UnsupportedForm where
  | qualifiedSelf
  | arrayLength
  | objectBound
  | never
  | implTrait
  | functionPointer
  | rawPointer
  | genericArgument
  | innerArguments
  | signature
  | other
  deriving DecidableEq, Repr

def UnsupportedForm.description : UnsupportedForm → String
  | .qualifiedSelf => "qualified self type"
  | .arrayLength => "non-literal array length"
  | .objectBound => "trait object bound"
  | .never => "never type"
  | .implTrait => "impl trait"
  | .functionPointer => "function pointer"
  | .rawPointer => "raw pointer"
  | .genericArgument => "non-type generic argument"
  | .innerArguments => "generic arguments inside a path"
  | .signature => "parenthesized arguments"
  | .other => "type form"

/-- Why a text is no type of a declaration. -/
inductive TypeError where
  | invalid (text : String)
  | unsupported (text : String) (form : UnsupportedForm)
  deriving DecidableEq, Repr

def TypeError.message : TypeError → String
  | .invalid text => "`" ++ text ++ "` is not a valid Rust type: " ++ Text.unexplained
  | .unsupported text form =>
    "`" ++ text ++ "` uses an unsupported type form (" ++ form.description ++ ")"

namespace TypeRef

def shape : TypeRef → Shape
  | path .. => .path
  | reference lifetime isMutable _ => .reference lifetime isMutable
  | slice _ => .slice
  | array _ length => .array length
  | tuple .. => .tuple
  | unit => .unit
  | traitObject _ => .traitObject

def arguments : TypeRef → List TypeRef
  | path _ arguments => arguments
  | reference _ _ referent => [referent]
  | slice element => [element]
  | array element _ => [element]
  | tuple first others => first :: others
  | unit => []
  | traitObject _ => []

/-- The path without generic arguments, or the bounds of a trait object. -/
def qualifiedName : TypeRef → String
  | path name _ => name
  | traitObject bounds => " + ".intercalate bounds
  | _ => ""

/-- The last segment of the path. -/
def simpleName (t : TypeRef) : String := Text.lastSegment t.qualifiedName

/-- A named type without arguments. -/
def named (name : String) : TypeRef := path name []

/-- The tuple of the elements, or the unit type if there are none. -/
def ofElements : List TypeRef → TypeRef
  | [] => unit
  | first :: others => tuple first others

/-! ### Writing -/

mutual

/-- The type as generated code writes it. -/
def render : TypeRef → String
  | path name [] => name
  | path name (first :: others) => name ++ "<" ++ render first ++ renderMore others ++ ">"
  | reference lifetime isMutable referent =>
    "&" ++ (match lifetime with
      | some name => "'" ++ name ++ " "
      | none => "") ++ (if isMutable then "mut " else "") ++ render referent
  | slice element => "[" ++ render element ++ "]"
  | array element length => "[" ++ render element ++ "; " ++ length ++ "]"
  | tuple first [] => "(" ++ render first ++ ",)"
  | tuple first (second :: others) =>
    "(" ++ render first ++ renderMore (second :: others) ++ ")"
  | unit => "()"
  | traitObject bounds => "dyn " ++ " + ".intercalate bounds

/-- Types after the first of a list. -/
def renderMore : List TypeRef → String
  | [] => ""
  | t :: others => ", " ++ render t ++ renderMore others

end

instance : ToString TypeRef := ⟨render⟩

/-! ### Reading -/

mutual

/-- The type that a written form stands for. -/
def ofExpr : Code.TypeExpr → Except UnsupportedForm TypeRef
  | .path true _ => .error .qualifiedSelf
  | .path false named => do
    let (name, arguments) ← ofPath named
    return path name arguments
  | .reference lifetime isMutable referent => do
    return reference lifetime isMutable (← ofExpr referent)
  | .slice element => do return slice (← ofExpr element)
  | .array _ none => .error .arrayLength
  | .array element (some length) => do return array (← ofExpr element) length
  | .tuple elements => do return ofElements (← ofExprs elements)
  | .parenthesized inner => ofExpr inner
  | .traitObject _ bounds _ => do return traitObject (← ofBounds bounds)
  | .implTrait _ => .error .implTrait
  | .function _ => .error .functionPointer
  | .pointer _ => .error .rawPointer
  | .never => .error .never
  | .macroCall _ => .error .other
  | .inferred => .error .other
  | .other _ => .error .other

def ofExprs : List Code.TypeExpr → Except UnsupportedForm (List TypeRef)
  | [] => .ok []
  | t :: others => do return (← ofExpr t) :: (← ofExprs others)

/-- Name and arguments of a path; only its last segment may have arguments. -/
def ofPath : Code.Path → Except UnsupportedForm (String × List TypeRef)
  | .mk absolute segments => do
    let (name, arguments) ← ofSegments segments
    return ((if absolute then "::" else "") ++ name, arguments)

def ofSegments : List Code.Segment → Except UnsupportedForm (String × List TypeRef)
  | [] => .ok ("", [])
  | [.mk name arguments] => do return (name, ← ofArguments arguments)
  | .mk name .none :: more => do
    let (others, arguments) ← ofSegments more
    return (name ++ "::" ++ others, arguments)
  | .mk _ (.angled _) :: _ => .error .innerArguments
  | .mk _ (.signature _) :: _ => .error .signature

def ofArguments : Code.Arguments → Except UnsupportedForm (List TypeRef)
  | .none => .ok []
  | .angled arguments => ofArgumentList arguments
  | .signature _ => .error .signature

def ofArgumentList : List Code.Argument → Except UnsupportedForm (List TypeRef)
  | [] => .ok []
  | .type t :: others => do return (← ofExpr t) :: (← ofArgumentList others)
  | .other :: _ => .error .genericArgument

def ofBounds : List Code.Bound → Except UnsupportedForm (List String)
  | [] => .ok []
  | .trait named :: others => do
    let (name, arguments) ← ofPath named
    return render (path name arguments) :: (← ofBounds others)
  | .lifetime name :: others => do return ("'" ++ name) :: (← ofBounds others)
  | .capture :: _ => .error .objectBound
  | .other _ :: _ => .error .objectBound

end

def parse (text : String) : Except TypeError TypeRef :=
  match Code.TypeExpr.parse? text with
  | none => .error (.invalid text)
  | some written => (ofExpr written).mapError (.unsupported text)

end TypeRef

end Companion

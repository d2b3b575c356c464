import Companion.Declaration.Basic
import Companion.Diagnostic.Basic
import Companion.Intercept.Body
import Companion.TypeRef.Queries

/-! Declarations as generators see them: types are resolved and names are known to be names. -/

set_option autoImplicit false

namespace Companion

/-- How a field holds the type of another declaration. -/
inductive NestedShape where
  | plain
  | optional
  | list
  deriving DecidableEq, Repr

structure Nested where
  declaration : String
  shape : NestedShape
  deriving DecidableEq, Repr

/-- Where the value of a field comes from. -/
inductive Role where
  | settable
  /-- Computed from other fields at construction. -/
  | derived (expression : String)
  | defaulted (expression : String)
  deriving DecidableEq, Repr, Inhabited

structure Model.Field where
  name : String
  type : TypeRef
  /-- The accessor that reads the field, if it is not read directly. -/
  accessor : Option String
  role : Role
  validators : List Descriptor
  nested : Option Nested
  location : Location
  description : Option String
  deriving Inhabited

structure Model.Parameter where
  name : String
  type : TypeRef
  validators : List Descriptor
  location : Location
  deriving Inhabited

structure Model.Method where
  name : String
  parameters : List Model.Parameter
  returns : TypeRef
  /-- The outermost first. -/
  interceptors : List Interceptor
  /-- Of the result. -/
  validators : List Descriptor
  body : Option String
  location : Location
  deriving Inhabited

structure Model where
  name : String
  traitPath : String
  artifacts : List ArtifactKind
  fields : List Model.Field
  methods : List Model.Method
  location : Location
  hash : String
  description : Option String
  deriving Inhabited

namespace Model

namespace Field

def derivation (f : Field) : Option String :=
  match f.role with
  | .derived e => some e
  | _ => none

def default (f : Field) : Option String :=
  match f.role with
  | .defaulted e => some e
  | _ => none

def isDerived (f : Field) : Bool := f.derivation.isSome

def isDefaulted (f : Field) : Bool := f.default.isSome

/-- Whether the value is supplied at construction. -/
def isInput (f : Field) : Bool := !f.isDerived

/-- Whether a value must be supplied. -/
def isRequired (f : Field) : Bool := decide (f.role = .settable) && !f.type.isNullable

end Field

namespace Method

/-- Whether the generated type overrides the method. -/
def isWoven (m : Method) : Bool :=
  !m.interceptors.isEmpty || !m.validators.isEmpty || m.parameters.any (!·.validators.isEmpty)

def isCached (m : Method) : Bool := m.interceptors.contains .cached

/-- The field that holds cached results. -/
def cacheField (m : Method) : String := m.name ++ "_cache"

/-- The parameters as a signature lists them. -/
def parameterList (m : Method) : String :=
  ", ".intercalate (m.parameters.map fun p => p.name ++ ": " ++ p.type.render)

end Method

/-- The declared type itself. -/
def type (m : Model) : TypeRef := .named m.name

def field? (m : Model) (name : String) : Option Field := m.fields.find? (·.name == name)

/-- Fields that are supplied at construction. -/
def inputs (m : Model) : List Field := m.fields.filter Field.isInput

def derivedFields (m : Model) : List Field := m.fields.filter Field.isDerived

def wovenMethods (m : Model) : List Method := m.methods.filter Method.isWoven

def generates (m : Model) (kind : ArtifactKind) : Bool := m.artifacts.contains kind

end Model

end Companion

import Companion.Text.Basic
import Companion.Code.StringLiteral
import Companion.Decimal.Layout

/-! Declarations of types and of the companions to generate for them. -/

set_option autoImplicit false

namespace Companion

/-- The parameter of a validator. -/
inductive Argument where
  | bool (value : Bool)
  | integer (value : Int64)
  | float (value : Float)
  | text (value : String)
  deriving Inhabited, BEq

namespace Argument

/-- The argument as messages show it. -/
def display : Argument → String
  | bool b => toString b
  | integer i => toString i.toInt
  | float x => Decimal.sourceText x
  | text s => s

/-- The argument as generated code writes it. -/
def literal : Argument → String
  | text s => Code.stringLiteral s
  | a => a.display

end Argument

/-- A validator by its tag. -/
structure Descriptor where
  tag : String
  argument : Option Argument
  deriving Inhabited, BEq

/-- A validator as it is written: a tag, or a map from a tag to its argument. -/
inductive ValidatorSpec where
  | tag (tag : String)
  | entries (entries : List (String × Argument))
  deriving Inhabited, BEq

namespace ValidatorSpec

/-- What the validator says, or the number of entries of a map that has not exactly one. -/
def descriptor : ValidatorSpec → Except Nat Descriptor
  | tag t => .ok ⟨Text.trim t, none⟩
  | entries [(t, argument)] => .ok ⟨Text.trim t, some argument⟩
  | entries found => .error found.length

def entryCountMessage (found : Nat) : String :=
  "a validator map must have exactly one entry, found " ++ toString found

end ValidatorSpec

inductive ArtifactKind where
  | subclass
  | builder
  | converter
  deriving DecidableEq, Repr

namespace ArtifactKind

def all : List ArtifactKind := [subclass, builder, converter]

def name : ArtifactKind → String
  | subclass => "subclass"
  | builder => "builder"
  | converter => "converter"

/-- The companion without which this one cannot be. -/
def prerequisite? : ArtifactKind → Option ArtifactKind
  | subclass => none
  | builder => some subclass
  | converter => some builder

/-- Whether the companion is the other one or cannot be without it. -/
def needs : ArtifactKind → ArtifactKind → Bool
  | subclass, other => other == subclass
  | builder, other => other == builder || other == subclass
  | converter, _ => true

end ArtifactKind

/-- A stored field, which is read directly or through an accessor. -/
structure Declaration.Member where
  accessor : Option String
  field : Option String
  type : String
  default : Option String
  derivation : Option String
  validators : List ValidatorSpec
  description : Option String
  deriving Inhabited, BEq

structure Declaration.Parameter where
  name : String
  type : String
  validators : List ValidatorSpec
  deriving Inhabited, BEq

structure Declaration.Method where
  name : String
  parameters : List Declaration.Parameter
  returns : Option String
  validators : List ValidatorSpec
  interceptors : List String
  body : Option String
  deriving Inhabited, BEq

structure Declaration where
  name : String
  implements : Option String
  supertypes : List String
  generate : List ArtifactKind
  members : List Declaration.Member
  methods : List Declaration.Method
  description : Option String
  deriving Inhabited, BEq

namespace Declaration

/-- The name a member is declared by. -/
def Member.declaredName (m : Member) : Option String := m.accessor.or m.field

/-- The trait that the generated type implements. -/
def traitPath (d : Declaration) : String := d.implements.getD d.name

/-- What is asked for; without a wish, everything. -/
def requested (d : Declaration) : List ArtifactKind :=
  if d.generate.isEmpty then ArtifactKind.all else d.generate

/-- Whether a companion is asked for, or one that cannot be without it. -/
def generates (d : Declaration) (kind : ArtifactKind) : Bool :=
  d.requested.any (·.needs kind)

/-- What is generated, in the order it is generated. -/
def artifacts (d : Declaration) : List ArtifactKind := ArtifactKind.all.filter d.generates

/-- What is generated only because something else needs it, the most direct need first. -/
def implied (d : Declaration) : List ArtifactKind :=
  d.artifacts.reverse.filter fun kind => !d.requested.contains kind

end Declaration

end Companion

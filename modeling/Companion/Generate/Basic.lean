import Companion.Config.Basic
import Companion.Emit.Emitter
import Companion.Intercept.Weave

/-! What the generators of a declaration's companions read. -/

set_option autoImplicit false

namespace Companion

inductive GenerateError where
  | emit (error : EmitError)
  | intercept (error : InterceptError)
  deriving DecidableEq, Repr

def GenerateError.message : GenerateError → String
  | emit e => e.message
  | intercept e => e.message

structure Generation where
  model : Model
  contracts : ContractTable
  naming : Naming.Scheme
  runtimePath : String
  maxCacheArity : Nat
  deriving Inhabited

namespace Generation

/-- The name of a companion of a declaration. -/
def nameOf (g : Generation) (declaration : String) (kind : ArtifactKind) : String :=
  g.naming.outputName declaration kind

/-- The name of a companion of this declaration. -/
def outputName (g : Generation) (kind : ArtifactKind) : String := g.nameOf g.model.name kind

/-- The path of a part of the runtime support. -/
def runtime (g : Generation) (item : String) : String := g.runtimePath ++ "::" ++ item

def interceptContext (g : Generation) : InterceptContext :=
  ⟨g.model.name, g.runtimePath, g.maxCacheArity⟩

/-- A block with steps inside. -/
def block (kind : BlockKind) (opener : String) (inner : List Step) : List Step :=
  .enter kind opener :: inner ++ [.leave]

def commaList (items : List String) : String := ", ".intercalate items

/-- A documentation comment, line by line. -/
def documentation (description : Option String) : List Step :=
  (description.map Text.lines).getD [] |>.map fun line => .note ("/// " ++ line)

end Generation

end Companion

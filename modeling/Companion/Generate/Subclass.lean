import Companion.Generate.Basic

/-! The concrete type of a declaration.

Its constructor applies defaults, checks what it was given, computes derived fields once and checks
them.
-/

set_option autoImplicit false

namespace Companion.Generation

/-- The type of a constructor parameter. A field with a default may be left out. -/
def parameterType (f : Model.Field) : String :=
  if f.isDefaulted then "Option<" ++ f.type.render ++ ">" else f.type.render

/-- The methods that the type overrides, woven. -/
def woven (g : Generation) : Except InterceptError (List WovenMethod) :=
  g.model.wovenMethods.mapM fun m => m.weave g.contracts g.interceptContext

def fieldSteps (f : Model.Field) : List Step :=
  documentation f.description ++
    [.field ((if f.accessor.isSome then "" else "pub ") ++ f.name ++ ": " ++ f.type.render)]

def structSteps (g : Generation) (state : List StateField) : List Step :=
  documentation g.model.description ++
    [.note (if state.isEmpty then "#[derive(Debug, Clone, PartialEq)]"
      else "#[derive(Debug, Clone)]")] ++
    block .struct ("pub struct " ++ g.outputName .subclass)
      (g.model.fields.flatMap fieldSteps ++
        state.map fun s => .field (s.name ++ ": " ++ s.type))

def defaultStep (f : Model.Field) : Option Step :=
  f.default.map fun e => .statement ("let " ++ f.name ++ ": " ++ f.type.render ++ " = " ++ f.name ++
    ".unwrap_or_else(|| " ++ e ++ ");")

def derivationStep (f : Model.Field) : Option Step :=
  f.derivation.map fun e => .statement ("let " ++ f.name ++ ": " ++ f.type.render ++ " = " ++ e ++
    ";")

/-- The checks of a field. -/
def checkSteps (g : Generation) (f : Model.Field) : List Step :=
  (g.contracts.get (.field f.name)).map fun c => .statement (c.violationCheck g.runtimePath)

def initializer (g : Generation) (state : List StateField) : String :=
  "Ok(Self \x7b " ++ commaList (g.model.fields.map (·.name) ++
    state.map fun s => s.name ++ ": ::std::default::Default::default()") ++ " \x7d)"

def constructorSteps (g : Generation) (state : List StateField) : List Step :=
  let inputs := g.model.inputs
  let derived := g.model.derivedFields
  let parameters := commaList (inputs.map fun f => f.name ++ ": " ++ parameterType f)
  (if 7 < inputs.length then [.note "#[allow(clippy::too_many_arguments)]"] else []) ++
    block .function ("pub fn new(" ++ parameters ++ ") -> Result<Self, " ++
        g.runtime "ContractViolation" ++ ">")
      (inputs.filterMap defaultStep ++ inputs.flatMap g.checkSteps ++
        derived.filterMap derivationStep ++ derived.flatMap g.checkSteps ++
        [.statement (g.initializer state)])

def accessorSteps (f : Model.Field) : List Step :=
  match f.accessor with
  | none => []
  | some accessor => block .function ("fn " ++ accessor ++ "(&self) -> " ++ f.type.render)
    [.statement ("self." ++ f.name ++ (if f.type.isCopy then "" else ".clone()"))]

def methodSteps (m : WovenMethod) : List Step :=
  block .function m.signature (m.statements.map .statement)

/-- Equality that leaves the state of interceptors out. -/
def equalitySteps (g : Generation) : List Step :=
  let comparisons := g.model.fields.map fun f => "self." ++ f.name ++ " == other." ++ f.name
  block .impl ("impl PartialEq for " ++ g.outputName .subclass)
    (block .function "fn eq(&self, other: &Self) -> bool"
      [.statement (if comparisons.isEmpty then "let _ = other;\ntrue"
        else " && ".intercalate comparisons)])

def subclassSteps (g : Generation) (methods : List WovenMethod) : List Step :=
  let name := g.outputName .subclass
  let state := methods.flatMap (·.stateFields)
  g.structSteps state ++ [.blank] ++
    block .impl ("impl " ++ name) (g.constructorSteps state) ++ [.blank] ++
    block .impl ("impl " ++ g.model.traitPath ++ " for " ++ name)
      (g.model.fields.flatMap accessorSteps ++ methods.flatMap methodSteps) ++
    (if state.isEmpty then [] else .blank :: g.equalitySteps)

end Companion.Generation

import Companion.Generate.Basic

/-! The builder of a declaration.

It has a slot for each field that is supplied at construction. Slots of fields with a default are
filled from the start, so only required ones can be missing.
-/

set_option autoImplicit false

namespace Companion.Generation

/-- Required fields before the others. -/
def setterOrder (fields : List Model.Field) : List Model.Field :=
  let inputs := fields.filter Model.Field.isInput
  inputs.filter Model.Field.isRequired ++ inputs.filter (!·.isRequired)

/-- What the constructor is given for a field. -/
def constructorArgument (f : Model.Field) : String :=
  if f.isDefaulted then "self." ++ f.name
  else if f.isRequired then f.name
  else "self." ++ f.name ++ ".flatten()"

def slot (f : Model.Field) : String :=
  match f.default with
  | some e => f.name ++ ": Some(" ++ e ++ ")"
  | none => f.name ++ ": None"

def setterSteps (f : Model.Field) : List Step :=
  .blank :: block .function
    ("pub fn with_" ++ f.name ++ "(mut self, " ++ f.name ++ ": " ++ f.type.render ++ ") -> Self")
    [.statement ("self." ++ f.name ++ " = Some(" ++ f.name ++ ");"), .statement "self"]

/-- Items as one pattern or expression. -/
def tupled : List String → String
  | [item] => item
  | items => "(" ++ commaList items ++ ")"

/-- Report all required fields that are missing, then take them out of their slots. -/
def requiredSteps (g : Generation) (required : List Model.Field) : List Step :=
  if required.isEmpty then []
  else
    let failure (fields : String) := "return Err(" ++ g.runtime "BuildError" ++ "::missing(" ++
      Code.stringLiteral g.model.name ++ ", " ++ fields ++ "));"
    let names := required.map fun f => Code.stringLiteral f.name
    [.statement "let mut missing = Vec::new();"] ++
      required.flatMap (fun f => block .ifBlock ("if self." ++ f.name ++ ".is_none()")
        [.statement ("missing.push(" ++ Code.stringLiteral f.name ++ ");")]) ++
      block .ifBlock "if !missing.is_empty()" [.statement (failure "missing")] ++
      [.statement ("let " ++ tupled (required.map fun f => "Some(" ++ f.name ++ ")") ++ " = " ++
        tupled (required.map fun f => "self." ++ f.name) ++ " else \x7b\n    " ++
        failure ("vec![" ++ commaList names ++ "]") ++ "\n\x7d;")]

def buildSteps (g : Generation) : List Step :=
  let inputs := g.model.inputs
  let target := g.outputName .subclass
  .blank :: block .function
    ("pub fn build(self) -> Result<" ++ target ++ ", " ++ g.runtime "BuildError" ++ ">")
    (g.requiredSteps (inputs.filter Model.Field.isRequired) ++
      [.statement ("Ok(" ++ target ++ "::new(" ++ commaList (inputs.map constructorArgument) ++
        ")?)")])

def builderSteps (g : Generation) : List Step :=
  let name := g.outputName .builder
  let inputs := g.model.inputs
  [.note ("/// Step-wise construction of [`" ++ g.outputName .subclass ++ "`]"),
    .note "#[derive(Debug, Clone)]"] ++
    block .struct ("pub struct " ++ name)
      (inputs.map fun f => .field (f.name ++ ": Option<" ++ f.type.render ++ ">")) ++
    [.blank] ++
    block .impl ("impl Default for " ++ name)
      (block .function "fn default() -> Self" [.statement "Self::new()"]) ++
    [.blank] ++
    block .impl ("impl " ++ name)
      (block .function "pub fn new() -> Self"
        [.statement ("Self \x7b " ++ commaList (inputs.map slot) ++ " \x7d")] ++
        (setterOrder inputs).flatMap setterSteps ++ g.buildSteps)

end Companion.Generation

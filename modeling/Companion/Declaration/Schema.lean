import Companion.Json.Basic

/-! The schema of declaration files. -/

set_option autoImplicit false

namespace Companion.Declaration

open Schema

def noItems (s : Schema) : Schema := .withDefault (.array []) s

def validatorsSchema : Schema := .list (.named "ValidatorSpec")

def argumentSchema : Schema :=
  .described "Validator argument value" (.anyOf [.bool, .integer, .float, .text])

def validatorSchema : Schema :=
  .described ("Validator as written: a bare tag or a single-entry map\n\n```yaml\nvalidators:\n" ++
    "  - even\n  - greater_than: 3\n  - regex: \"^[a-z]+$\"\n```")
    (.anyOf [.text, .dictionary (.named "ValidatorArgument")])

def artifactSchema : Schema :=
  .described "Generated artifact kinds" (.oneOf [
    .oneOfTexts ["builder", "converter"],
    .described "Concrete type implementing the declared accessors" (.exactly "subclass")])

def memberSchema : Schema :=
  .described ("An accessor or stored field\n\n" ++
    "Exactly one of `accessor` and `field` must be given.") (.record [
    ("accessor", .described
      "Abstract accessor name (`get_value`); the field is named after it" .optionalText),
    ("field", .described "Stored field name, read directly" .optionalText),
    ("type", .described "Rust type" .text),
    ("default", .described "Default value expression" .optionalText),
    ("derive", .described "Derivation expression over other fields" .optionalText),
    ("validators", validatorsSchema),
    ("description", .optionalText)] ["type"] true)

def parameterSchema : Schema :=
  .described "A method parameter" (.record [
    ("name", .text),
    ("type", .text),
    ("validators", .described "Preconditions on the parameter" validatorsSchema)]
    ["name", "type"] true)

def methodSchema : Schema :=
  .described "A method whose body may be rewritten" (.record [
    ("name", .text),
    ("parameters", .list (.named "ParameterDecl")),
    ("returns", .described "Return type (unit when absent)" .optionalText),
    ("validators", .described "Postconditions on the result" validatorsSchema),
    ("interceptors", .described "Interceptors, outermost first" (.list .text)),
    ("body", .described "Original method body (a Rust expression or block)" .optionalText)]
    ["name"] true)

def schema : Schema :=
  .described "One declaration" (.record [
    ("name", .described "Declaration name; artifact names derive from it" .text),
    ("implements", .described
      "Trait implemented by the generated concrete type (defaults to `name`)" .optionalText),
    ("supertypes", .described "Traits the declared type is known to implement" (.list .text)),
    ("generate", .described "Artifacts to generate" (noItems (.list (.named "ArtifactKind")))),
    ("members", .described "Accessors and stored fields, in declaration order"
      (noItems (.list (.named "MemberDecl")))),
    ("methods", .described "Methods whose bodies may be rewritten"
      (.list (.named "MethodDecl"))),
    ("description", .optionalText)] ["name"] true)

/-- Of a whole file. -/
def fileSchema : SchemaDocument where
  title := "declgen declarations"
  root := .described "Declarations to generate companion artifacts for" (.record [
    ("declarations", noItems (.list (.named "Declaration")))] [] true)
  definitions := [
    ("ArtifactKind", artifactSchema),
    ("Declaration", schema),
    ("MemberDecl", memberSchema),
    ("MethodDecl", methodSchema),
    ("ParameterDecl", parameterSchema),
    ("ValidatorArgument", argumentSchema),
    ("ValidatorSpec", validatorSchema)]

end Companion.Declaration

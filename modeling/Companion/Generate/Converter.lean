import Companion.Generate.Basic

/-! The converter of a declaration.

Every field is an entry of a record, derived ones too. Reading goes through the builder, so that
what is read passes the same checks as what is constructed.
-/

set_option autoImplicit false

namespace Companion.Generation

/-- The encoding of a field. Declarations it holds are left to their converters. -/
def encodedField (g : Generation) (f : Model.Field) : String :=
  let value := "instance." ++ f.name
  match f.nested with
  | none => value ++ ".to_value()"
  | some nested =>
    let converter := g.nameOf nested.declaration .converter
    match nested.shape with
    | .plain => converter ++ "::encode(&" ++ value ++ ")"
    | .optional => "match &" ++ value ++ " \x7b Some(value) => " ++ converter ++
      "::encode(value), None => " ++ g.runtime "Value" ++ "::Null \x7d"
    | .list => g.runtime "Value" ++ "::List(" ++ value ++ ".iter().map(" ++ converter ++
      "::encode).collect())"

def encodedEntry (g : Generation) (f : Model.Field) : String :=
  "(" ++ Code.stringLiteral f.name ++ ".to_string(), " ++ g.encodedField f ++ ")"

def nestedReader : NestedShape → String
  | .plain => "nested"
  | .optional => "optional"
  | .list => "list"

/-- The reading of a field. -/
def readEntry (g : Generation) (f : Model.Field) : String :=
  let name := Code.stringLiteral f.name
  match f.nested with
  | none => "reader.leaf::<" ++ f.type.render ++ ">(" ++ name ++ ")?"
  | some nested => "reader." ++ nestedReader nested.shape ++ "(" ++ name ++ ", " ++
    g.nameOf nested.declaration .converter ++ "::decode)?"

def encodeSteps (g : Generation) : List Step :=
  let value := g.runtime "Value"
  let fields := g.model.fields
  block .function
    ("pub fn encode(instance: &" ++ g.outputName .subclass ++ ") -> " ++ value)
    ((if fields.isEmpty then [.statement "let _ = instance;"] else []) ++
      [.statement (value ++ "::Record(vec![" ++ commaList (fields.map g.encodedEntry) ++ "])")])

def decodeFieldSteps (g : Generation) (f : Model.Field) : List Step :=
  if f.isDerived then [.statement ("reader.skip(" ++ Code.stringLiteral f.name ++ ");")]
  else block .ifBlock ("if let Some(value) = " ++ g.readEntry f)
    [.statement ("builder = builder.with_" ++ f.name ++ "(value);")]

def decodeSteps (g : Generation) : List Step :=
  let letMut (isMutable : Bool) := if isMutable then "let mut " else "let "
  block .function
    ("pub fn decode(value: &" ++ g.runtime "Value" ++ ") -> Result<" ++ g.outputName .subclass ++
      ", " ++ g.runtime "ConversionError" ++ ">")
    ([.statement (letMut (!g.model.fields.isEmpty) ++ "reader = " ++ g.runtime "RecordReader" ++
        "::new(" ++ Code.stringLiteral g.model.name ++ ", value)?;"),
      .statement (letMut (!g.model.inputs.isEmpty) ++ "builder = " ++ g.outputName .builder ++
        "::new();")] ++
      g.model.fields.flatMap g.decodeFieldSteps ++
      [.statement "reader.finish()?;", .statement "Ok(builder.build()?)"])

def converterSteps (g : Generation) : List Step :=
  let name := g.outputName .converter
  (if g.model.fields.any (·.nested.isNone) then [.use (g.runtime "Leaf" ++ " as _")] else []) ++
    [.note ("/// Structural encoding of [`" ++ g.outputName .subclass ++ "`]"),
      .item ("pub struct " ++ name ++ ";"), .blank] ++
    block .impl ("impl " ++ name) (g.encodeSteps ++ [.blank] ++ g.decodeSteps)

end Companion.Generation

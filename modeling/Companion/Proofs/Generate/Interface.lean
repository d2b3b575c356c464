import Companion.Generate.Run

/-! What the units of a declaration have in common, with the types that their texts leave open. -/

set_option autoImplicit false

namespace Companion

/-- The type of values that may be absent. -/
def TypeRef.option (content : TypeRef) : TypeRef := .path "Option" [content]

theorem TypeRef.render_option (content : TypeRef) :
    content.option.render = "Option<" ++ content.render ++ ">" := by
  rw [option, render, renderMore, String.append_empty]
  rfl

/-- The name of a value and its type, as signatures and types list them. -/
structure TypedName where
  name : String
  type : TypeRef

namespace TypedName

def text (p : TypedName) : String := p.name ++ ": " ++ p.type.render

/-- The signature of the setter that takes the value. -/
def setter (p : TypedName) : String :=
  "pub fn with_" ++ p.name ++ "(mut self, " ++ p.text ++ ") -> Self"

/-- What a setter does: it fills the slot of the name and gives the builder back. -/
def setterBody (p : TypedName) : List Step :=
  [.statement ("self." ++ p.name ++ " = Some(" ++ p.name ++ ");"), .statement "self"]

end TypedName

/-- How a builder hands what is in a slot to the constructor. -/
inductive Passing where
  /-- The slot as it is. -/
  | slot
  /-- The value that was taken out of the slot. -/
  | value
  /-- The slot of an optional value, where an empty slot is no value either. -/
  | flattened

namespace Passing

def text (name : String) : Passing → String
  | slot => "self." ++ name
  | value => name
  | flattened => "self." ++ name ++ ".flatten()"

/-- The type of what is handed over, for a slot whose values have the type. Only options can be
flattened. -/
def type? (content : TypeRef) : Passing → Option TypeRef
  | slot => some content.option
  | value => some content
  | flattened => if content.isNullable then some content else none

end Passing

/-- How a value is an entry of a record. -/
inductive Coding where
  | leaf (type : TypeRef)
  | nested (shape : NestedShape) (declaration : String)

namespace Coding

/-- The expression for the entry of the value at a place. -/
def encoding (g : Generation) (place : String) : Coding → String
  | leaf _ => place ++ ".to_value()"
  | nested .plain declaration => g.nameOf declaration .converter ++ "::encode(&" ++ place ++ ")"
  | nested .optional declaration => "match &" ++ place ++ " \x7b Some(value) => " ++
    g.nameOf declaration .converter ++ "::encode(value), None => " ++ g.runtime "Value" ++
    "::Null \x7d"
  | nested .list declaration => g.runtime "Value" ++ "::List(" ++ place ++ ".iter().map(" ++
    g.nameOf declaration .converter ++ "::encode).collect())"

/-- The expression that reads the value back from the entry of a name. -/
def reading (g : Generation) (name : String) : Coding → String
  | leaf type => "reader.leaf::<" ++ type.render ++ ">(" ++ Code.stringLiteral name ++ ")?"
  | nested .plain declaration => "reader.nested(" ++ Code.stringLiteral name ++ ", " ++
    g.nameOf declaration .converter ++ "::decode)?"
  | nested .optional declaration => "reader.optional(" ++ Code.stringLiteral name ++ ", " ++
    g.nameOf declaration .converter ++ "::decode)?"
  | nested .list declaration => "reader.list(" ++ Code.stringLiteral name ++ ", " ++
    g.nameOf declaration .converter ++ "::decode)?"

/-- The type of what is read, if the converter of a declaration gives a type of the name. -/
def Yields (nameOf : String → String) (t : TypeRef) : Coding → Prop
  | leaf type => t = type
  | nested .plain declaration =>
    ∃ path, t = .path path [] ∧ t.simpleName = nameOf declaration
  | nested .optional declaration =>
    ∃ path, t.optionContent? = some (.path path []) ∧
      Text.lastSegment path = nameOf declaration
  | nested .list declaration =>
    ∃ list path, t = .path list [.path path []] ∧ t.isNamed ["Vec"] = true ∧
      Text.lastSegment path = nameOf declaration

end Coding

namespace Model.Field

/-- The field as the constructor takes it. -/
def parameter (f : Field) : TypedName := ⟨f.name, if f.isDefaulted then f.type.option else f.type⟩

/-- The field as a setter takes it. -/
def value (f : Field) : TypedName := ⟨f.name, f.type⟩

/-- The field as a builder keeps it. -/
def slot (f : Field) : TypedName := ⟨f.name, f.type.option⟩

def passing (f : Field) : Passing :=
  if f.isDefaulted then .slot else if f.type.isNullable then .flattened else .value

def coding (f : Field) : Coding :=
  match f.nested with
  | none => .leaf f.type
  | some nested => .nested nested.shape nested.declaration

/-- The entry of the field. -/
def entry (g : Generation) (f : Field) : String :=
  "(" ++ Code.stringLiteral f.name ++ ".to_string(), " ++
    f.coding.encoding g ("instance." ++ f.name) ++ ")"

/-- How a converter reads the field: it skips what is derived, and hands the rest to a setter. -/
def decoding (g : Generation) (f : Field) : List Step :=
  if f.isDerived then [.statement ("reader.skip(" ++ Code.stringLiteral f.name ++ ");")]
  else Generation.block .ifBlock ("if let Some(value) = " ++ f.coding.reading g f.name)
    [.statement ("builder = builder.with_" ++ f.name ++ "(value);")]

/-- What is passed for a field has the type of its parameter. -/
theorem type_passing (f : Field) : f.passing.type? f.type = some f.parameter.type := by
  unfold passing parameter
  split
  · rfl
  · split
    · next nullable => exact if_pos nullable
    · rfl

/-- A field that is supplied at construction is required unless it has a default or may be null. -/
theorem isRequired_eq {f : Field} (input : f.isInput = true) :
    f.isRequired = (!f.isDefaulted && !f.type.isNullable) := by
  unfold isInput isDerived derivation at input
  unfold isRequired isDefaulted default
  cases role : f.role with
  | derived e => simp [role] at input
  | defaulted e => simp
  | settable => simp

end Model.Field

namespace Generation

variable {g : Generation} {f : Model.Field}

theorem text_parameter (f : Model.Field) :
    f.parameter.text = f.name ++ ": " ++ parameterType f := by
  unfold TypedName.text parameterType Model.Field.parameter
  cases f.isDefaulted
  · rfl
  · rw [if_pos rfl, if_pos rfl, TypeRef.render_option]

theorem text_slot (f : Model.Field) :
    f.slot.text = f.name ++ ": Option<" ++ f.type.render ++ ">" := by
  have colon : ": Option<" = ": " ++ "Option<" := by decide
  rw [Model.Field.slot, TypedName.text, TypeRef.render_option, colon]
  simp only [String.append_assoc]

theorem constructorArgument_eq (input : f.isInput = true) :
    constructorArgument f = f.passing.text f.name := by
  unfold constructorArgument Model.Field.passing
  rw [Model.Field.isRequired_eq input]
  cases f.isDefaulted <;> cases f.type.isNullable <;> rfl

theorem setterSteps_eq (f : Model.Field) :
    setterSteps f = .blank :: block .function f.value.setter f.value.setterBody := by
  simp [setterSteps, Model.Field.value, TypedName.setter, TypedName.setterBody, TypedName.text,
    String.append_assoc]

theorem encodedEntry_eq (g : Generation) (f : Model.Field) : g.encodedEntry f = f.entry g := by
  unfold encodedEntry encodedField Model.Field.entry Model.Field.coding
  cases f.nested with
  | none => rfl
  | some nested => cases h : nested.shape <;> simp only [h] <;> rfl

theorem readEntry_eq (g : Generation) (f : Model.Field) :
    g.readEntry f = f.coding.reading g f.name := by
  unfold readEntry Model.Field.coding
  cases f.nested with
  | none => rfl
  | some nested => cases h : nested.shape <;> simp only [h] <;> rfl

theorem decodeFieldSteps_eq (g : Generation) (f : Model.Field) :
    g.decodeFieldSteps f = f.decoding g := by
  rw [decodeFieldSteps, Model.Field.decoding, readEntry_eq]

end Generation

end Companion

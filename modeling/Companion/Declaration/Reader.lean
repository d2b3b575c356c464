import Companion.Decimal.Word
import Companion.Declaration.Source
import Companion.Yaml.Reader

/-! Reading declarations from the text of a file. -/

set_option autoImplicit false

namespace Companion

open Yaml (Node Read Fields Scalar)

/-- An argument without a type of its own: integers that do not fit are floats. -/
def Argument.ofScalar? : Scalar → Option Argument
  | .bool b => some (.bool b)
  | .integer i =>
    if Word.fitsSigned 64 i then some (.integer (Int64.ofInt i)) else some (.float (Float.ofInt i))
  | .float x => some (.float x)
  | .text s => some (.text s)
  | .null => none

def Argument.read (n : Node) : Read Argument := do
  let some a := ofScalar? (← Read.scalar n) | failure
  return a

namespace ValidatorSpec

/-- A scalar that can only be text. -/
def readTag (n : Node) : Read String := do
  match ← Read.scalar n with
  | .text s => return s
  | _ => failure

/-- A mapping, which is written as one even if it is empty. -/
def isMapping : Node → Bool
  | .mapping mark _ => mark.all (·.name?.isNone)
  | _ => false

def read (n : Node) : Read ValidatorSpec := do
  let n ← Read.follow n
  if isMapping n then return .entries (← Read.dictionary readTag Argument.read n).entries
  return .tag (← readTag n)

end ValidatorSpec

namespace ArtifactKind

/-- The name of a companion, or an older name of it. -/
def ofName? (name : String) : Option ArtifactKind :=
  if name = "concrete_type" then some subclass else all.find? (·.name = name)

/-- A companion by its name, which may be a tag that holds nothing. -/
def read (n : Node) : Read ArtifactKind := do
  match ← Read.follow n with
  | .scalar tag style content =>
    match tag.bind (·.name?) with
    | some name =>
      guard (style == .plain && (content.isEmpty || Yaml.isNull content))
      let some kind := ofName? name | failure
      return kind
    | none =>
      let some kind := ofName? content | failure
      return kind
  | _ => failure

end ArtifactKind

namespace Declaration

def Member.read (n : Node) : Read Member := do
  let f ← Fields.read
    ["accessor", "field", "type", "default", "derive", "validators", "description"] false n
  return {
    accessor := ← f.optional "accessor" Read.text
    field := ← f.optional "field" Read.text
    type := ← f.required "type" Read.text
    default := ← f.optional "default" Read.text
    derivation := ← f.optional "derive" Read.text
    validators := ← f.list "validators" ValidatorSpec.read
    description := ← f.optional "description" Read.text }

def Parameter.read (n : Node) : Read Parameter := do
  let f ← Fields.read ["name", "type", "validators"] false n
  return {
    name := ← f.required "name" Read.text
    type := ← f.required "type" Read.text
    validators := ← f.list "validators" ValidatorSpec.read }

def Method.read (n : Node) : Read Method := do
  let f ← Fields.read
    ["name", "parameters", "returns", "validators", "interceptors", "body"] false n
  return {
    name := ← f.required "name" Read.text
    parameters := ← f.list "parameters" Parameter.read
    returns := ← f.optional "returns" Read.text
    validators := ← f.list "validators" ValidatorSpec.read
    interceptors := ← f.list "interceptors" Read.text
    body := ← f.optional "body" Read.text }

def read (n : Node) : Read Declaration := do
  let f ← Fields.read
    ["name", "implements", "supertypes", "generate", "members", "methods", "description"] false n
  return {
    name := ← f.required "name" Read.text
    implements := ← f.optional "implements" Read.text
    supertypes := ← f.list "supertypes" Read.text
    generate := ← f.list "generate" ArtifactKind.read
    members := ← f.list "members" Member.read
    methods := ← f.list "methods" Method.read
    description := ← f.optional "description" Read.text }

/-- The declarations that a file lists. -/
def readFile (n : Node) : Read (List Declaration) := do
  (← Fields.read ["declarations"] false n).list "declarations" read

/-- The declarations in the text of a file. -/
def listOfText? (text : String) : Option (List Declaration) :=
  (Yaml.Document.ofText? text).bind fun d => Read.run d readFile

end Declaration

def DeclarationSource.ofText (text : String) (path : Option String) :
    Except DeclarationError DeclarationSource :=
  match Declaration.listOfText? text with
  | some declarations => .ok ⟨path, Outline.ofText text, declarations⟩
  | none => .error ⟨path⟩

end Companion

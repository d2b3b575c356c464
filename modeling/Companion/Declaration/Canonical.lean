import Companion.Declaration.Basic
import Companion.Digest.Sha256
import Companion.Json.Basic

/-! The canonical text of a declaration, whose digest tells whether it has changed.

Parts that are absent or empty are left out, save the artifacts and the members.
-/

set_option autoImplicit false

namespace Companion

def Argument.toJson : Argument → Json
  | bool b => .bool b
  | integer i => .integer i.toInt
  | float x => .float x
  | text s => .text s

def ValidatorSpec.toJson : ValidatorSpec → Json
  | tag t => .text t
  | entries parts => .object (parts.map fun (name, a) => (name, a.toJson))

namespace Declaration

/-- A field of an object, unless it is absent. -/
def optional (name : String) (value : Option String) : List (String × Json) :=
  (value.map fun v => (name, Json.text v)).toList

/-- A list in an object, unless it is empty. -/
def unlessEmpty {α : Type} (name : String) (items : List α) (toJson : α → Json) :
    List (String × Json) :=
  if items.isEmpty then [] else [(name, .array (items.map toJson))]

def Member.toJson (m : Member) : Json := .object <|
  optional "accessor" m.accessor ++ optional "field" m.field ++ [("type", .text m.type)] ++
    optional "default" m.default ++ optional "derive" m.derivation ++
    unlessEmpty "validators" m.validators ValidatorSpec.toJson ++
    optional "description" m.description

def Parameter.toJson (p : Parameter) : Json := .object <|
  [("name", .text p.name), ("type", .text p.type)] ++
    unlessEmpty "validators" p.validators ValidatorSpec.toJson

def Method.toJson (m : Method) : Json := .object <|
  [("name", .text m.name)] ++ unlessEmpty "parameters" m.parameters Parameter.toJson ++
    optional "returns" m.returns ++ unlessEmpty "validators" m.validators ValidatorSpec.toJson ++
    unlessEmpty "interceptors" m.interceptors Json.text ++ optional "body" m.body

def toJson (d : Declaration) : Json := .object <|
  [("name", .text d.name)] ++ optional "implements" d.implements ++
    unlessEmpty "supertypes" d.supertypes Json.text ++
    [("generate", .array (d.generate.map fun kind => .text kind.name)),
      ("members", .array (d.members.map Member.toJson))] ++
    unlessEmpty "methods" d.methods Method.toJson ++ optional "description" d.description

def canonical (d : Declaration) : String := d.toJson.compact

def hash (d : Declaration) : String := Sha256.hexDigest d.canonical

end Declaration

end Companion

import Companion.Contract.Synthesis
import Companion.Diagnostic.Checked
import Companion.Model.Basic

/-! Every check of one declaration. -/

set_option autoImplicit false

namespace Companion

/-- The variable that holds a method's result. -/
def resultBinding : String := "result"

namespace Element

def ofField (f : Model.Field) : Element := ⟨f.name, f.name, f.type⟩

def ofParameter (p : Model.Parameter) : Element := ⟨p.name, p.name, p.type⟩

def ofResult (m : Model.Method) : Element := ⟨"result of " ++ m.name, resultBinding, m.returns⟩

end Element

/-- What the checks of a table stand on. -/
inductive ContractTable.Key where
  | field (name : String)
  | parameter (method name : String)
  | result (method : String)
  deriving DecidableEq, Repr

/-- Checks by what they stand on; later ones hide earlier ones. -/
structure ContractTable where
  entries : List (ContractTable.Key × List Contract)
  deriving Inhabited

namespace ContractTable

def get (t : ContractTable) (key : Key) : List Contract := (t.entries.lookup key).getD []

/-- Later entries come first, and what has no checks has no entry. -/
def ofParts (parts : List (Key × List Contract)) : ContractTable :=
  ⟨(parts.filter fun (_, contracts) => !contracts.isEmpty).reverse⟩

def isEmpty (t : ContractTable) : Bool := t.entries.isEmpty

/-- The check of one validator. An unknown tag leaves none; misuses do not stand in the way. -/
def checkDescriptor (context : SynthesisContext) (e : Element) (l : Location)
    (d : Descriptor) : Checked (Option Contract) :=
  match d.synthesize context e with
  | .ok s => (fun _ => s.contract) <$> Checked.all (s.findings.map fun f =>
      .usageError l f.template f.arguments)
  | .error tag => .failWith l "Unknown validator `$`." [tag]

def checkElement (context : SynthesisContext) (e : Element) (l : Location)
    (ds : List Descriptor) : Checked (List Contract) :=
  (·.filterMap id) <$> Checked.all (ds.map (checkDescriptor context e l))

/-- What carries validators in a model: its key, itself, its place and its validators. -/
abbrev Subject := Key × Element × Location × List Descriptor

def methodSubjects (m : Model.Method) : List Subject :=
  m.parameters.map (fun p =>
    (.parameter m.name p.name, .ofParameter p, p.location, p.validators)) ++
    [(.result m.name, .ofResult m, m.location, m.validators)]

/-- Fields first, and of each method its parameters before its result. -/
def subjects (model : Model) : List Subject :=
  model.fields.map (fun f => (.field f.name, .ofField f, f.location, f.validators)) ++
    model.methods.flatMap methodSubjects

/-- The checks of a model. -/
def ofModel (context : SynthesisContext) (model : Model) : Checked ContractTable :=
  ofParts <$> Checked.all ((subjects model).map fun (key, e, l, ds) =>
    (fun contracts => (key, contracts)) <$> checkElement context e l ds)

/-- The first tag of a model that names no validator. -/
def unknownTag? (model : Model) : Option String :=
  ((subjects model).flatMap fun (_, _, _, ds) => ds.map Descriptor.tag).find? fun tag =>
    (Validator.ofTag? tag).isNone

end ContractTable

end Companion

import Companion.Contract.Table
import Companion.Proofs.Diagnostic.Reports
import Companion.Proofs.Model.Build
import Companion.Proofs.Text.Dictionary
import Mathlib.Data.List.Nodup

/-! Which checks a table holds, and what is reported while they are made.

Every validator of a model is looked at once, in one order, whatever is wrong with others. The order
tells which tag is refused first and how reports follow each other.
-/

set_option autoImplicit false

namespace Companion

theorem Finding.template_ne (f : Finding) : f.template ≠ "Unknown validator `$`." := by
  cases f <;> simp [Finding.template]

/-! ### Validators of a model -/

namespace Descriptor

variable (context : SynthesisContext) (e : Element)

/-- The check on an element, if there is one at run time. -/
def check? (d : Descriptor) : Option Contract :=
  match d.synthesize context e with
  | .ok s => s.contract
  | .error _ => none

/-- An error for each misuse, or for an unknown tag. -/
def reports (l : Location) (d : Descriptor) : Diagnostics :=
  match d.synthesize context e with
  | .ok s => s.findings.map fun f => ⟨.error, f.template, f.arguments, l⟩
  | .error tag => [⟨.error, "Unknown validator `$`.", [tag], l⟩]

end Descriptor

namespace Element

variable (context : SynthesisContext) (e : Element)

/-- The checks of validators on an element, in their order. -/
def checks (ds : List Descriptor) : List Contract := ds.filterMap (·.check? context e)

def reports (l : Location) (ds : List Descriptor) : Diagnostics :=
  ds.flatMap (·.reports context e l)

end Element

namespace Model

/-- Each parameter with its method. -/
def parameters (model : Model) : List (Method × Parameter) :=
  model.methods.flatMap fun m => m.parameters.map (m, ·)

/-- The validators of fields, and then of each method those of its parameters and its result. -/
def descriptors (model : Model) : List Descriptor :=
  model.fields.flatMap (·.validators) ++
    model.methods.flatMap fun m => m.parameters.flatMap (·.validators) ++ m.validators

/-- What is reported about them, in the same order. -/
def reports (context : SynthesisContext) (model : Model) : Diagnostics :=
  model.fields.flatMap (fun f => (Element.ofField f).reports context f.location f.validators) ++
    model.methods.flatMap fun m =>
      m.parameters.flatMap (fun p =>
        (Element.ofParameter p).reports context p.location p.validators) ++
      (Element.ofResult m).reports context m.location m.validators

end Model

/-! ### What each check leaves -/

namespace ContractTable

open Checked Model

variable (context : SynthesisContext) {model : Model}

/-- The key of a part of a model, and its checks. -/
def entry (context : SynthesisContext) (subject : Subject) : Key × List Contract :=
  (subject.1, subject.2.1.checks context subject.2.2.2)

end ContractTable

end Companion

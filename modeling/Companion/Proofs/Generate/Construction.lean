import Companion.Proofs.Contract.Table
import Companion.Proofs.Generate.Completeness
import Companion.Proofs.Generate.Names
import Mathlib.Data.List.Perm.Basic

/-! What the constructor of a concrete type does for each field.

It goes over the fields several times, each time over some of them. Taken together, every field has
its default, its derivation and its checks once, by stages that follow each other.
-/

set_option autoImplicit false

namespace Companion

/-! ### Stages -/

section InStages

variable {α : Type} {stage : α → Nat} {bound : Nat} {xs : List α}

end InStages

/-! ### Constructions -/

/-- What a constructor does for a field. -/
inductive Construction where
  | default (f : Model.Field) (expr : String)
  | derivation (f : Model.Field) (expr : String)
  | check (f : Model.Field) (c : Contract)

namespace Construction

def field : Construction → Model.Field
  | default f _ | derivation f _ | check f _ => f

/-- The statement of the constructor. -/
def statement (runtimePath : String) : Construction → String
  | default f expr => "let " ++ f.name ++ ": " ++ f.type.render ++ " = " ++ f.name ++
    ".unwrap_or_else(|| " ++ expr ++ ");"
  | derivation f expr => "let " ++ f.name ++ ": " ++ f.type.render ++ " = " ++ expr ++ ";"
  | check _ c => c.violationCheck runtimePath

def ofDefault (f : Model.Field) : List Construction := f.default.toList.map (default f)

def ofDerivation (f : Model.Field) : List Construction := f.derivation.toList.map (derivation f)

def ofChecks (context : SynthesisContext) (f : Model.Field) : List Construction :=
  ((Element.ofField f).checks context f.validators).map (check f)

/-- All that is to be done for a field: its default if it has one, its derivation if it has one, and
each of its checks. -/
def ofField (context : SynthesisContext) (f : Model.Field) : List Construction :=
  ofDefault f ++ ofDerivation f ++ ofChecks context f

end Construction

namespace Model

open Construction

end Model

/-! ### Constructors -/

namespace Generation

open Construction Step

variable {g : Generation} {batch : Batch} {source : DeclarationSource} {d : Declaration}
  {context : SynthesisContext}

end Generation

end Companion

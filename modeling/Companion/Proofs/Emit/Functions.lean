import Companion.Generate.Basic

/-! The functions of a unit, read back from its steps. -/

set_option autoImplicit false

namespace Companion.Step

/-- The steps up to the one that closes the block they are in, where so many blocks of their own are
open. -/
def within : Nat → List Step → List Step
  | _, [] => []
  | 0, .leave :: _ => []
  | depth + 1, .leave :: rest => .leave :: within depth rest
  | depth, .enter kind opener :: rest => .enter kind opener :: within (depth + 1) rest
  | depth, s :: rest => s :: within depth rest

/-- The functions that steps write, each with the text that opens it and the steps inside. -/
def functions : List Step → List (String × List Step)
  | [] => []
  | .enter .function opener :: rest => (opener, within 0 rest) :: functions rest
  | _ :: rest => functions rest

/-- The fields that steps write. -/
def fieldTexts (steps : List Step) : List String :=
  steps.filterMap fun s => match s with
    | .field text => some text
    | _ => none

/-- Steps that close every block they open, and no other. -/
def Closed (steps : List Step) : Prop :=
  ∀ depth rest, within depth (steps ++ rest) = steps ++ within depth rest

/-- Steps that write the functions, and leave those that follow as they are. -/
def Declares (steps : List Step) (found : List (String × List Step)) : Prop :=
  ∀ rest, functions (steps ++ rest) = found ++ functions rest

/-- Steps that neither open nor close a block. -/
def IsPlain : Step → Bool
  | .enter .. | .leave => false
  | _ => true

variable {steps others : List Step} {found more : List (String × List Step)} {s : Step}
  {kind : BlockKind} {opener : String}

namespace Closed

theorem nil : Closed [] := fun _ _ => rfl

theorem append (first : Closed steps) (rest : Closed others) : Closed (steps ++ others) := by
  intro depth more
  rw [List.append_assoc, first, rest, List.append_assoc]

theorem plain (isPlain : s.IsPlain = true) : Closed [s] := by
  intro depth rest
  cases s with
  | enter | leave => cases isPlain
  | _ => cases depth <;> rfl

theorem flatMap {α : Type} {f : α → List Step} {xs : List α} (each : ∀ x ∈ xs, Closed (f x)) :
    Closed (xs.flatMap f) := by
  induction xs with
  | nil => exact nil
  | cons x xs ih =>
    obtain ⟨first, rest⟩ := List.forall_mem_cons.mp each
    exact append first (ih rest)

theorem block (inside : Closed steps) : Closed (Generation.block kind opener steps) := by
  intro depth rest
  have whole : Generation.block kind opener steps ++ rest =
      .enter kind opener :: (steps ++ (.leave :: rest)) := by simp [Generation.block]
  -- The step that leaves the block takes back the depth that the first one added.
  have opened : within depth (.enter kind opener :: (steps ++ (.leave :: rest))) =
      .enter kind opener :: within (depth + 1) (steps ++ (.leave :: rest)) := by
    cases depth <;> rfl
  rw [whole, opened, inside, within, Generation.block]
  simp

/-- What is inside a block is all up to its end. -/
theorem within_leave (inside : Closed steps) (rest : List Step) :
    within 0 (steps ++ .leave :: rest) = steps := by
  rw [inside, within, List.append_nil]

end Closed

namespace Declares

theorem nil : Declares [] [] := fun _ => rfl

theorem append (first : Declares steps found) (rest : Declares others more) :
    Declares (steps ++ others) (found ++ more) := by
  intro after
  rw [List.append_assoc, first, rest, List.append_assoc]

theorem cons (first : Declares [s] found) (rest : Declares others more) :
    Declares (s :: others) (found ++ more) := append first rest

theorem plain (isPlain : s.IsPlain = true) : Declares [s] [] := by
  intro rest
  cases s with
  | enter | leave => cases isPlain
  | _ => rfl

theorem flatMap {α : Type} {f : α → List Step} {found : α → List (String × List Step)}
    {xs : List α} (each : ∀ x ∈ xs, Declares (f x) (found x)) :
    Declares (xs.flatMap f) (xs.flatMap found) := by
  induction xs with
  | nil => exact nil
  | cons x xs ih =>
    obtain ⟨first, rest⟩ := List.forall_mem_cons.mp each
    exact append first (ih rest)

theorem function (closed : Closed steps) (none : Declares steps []) :
    Declares (Generation.block .function opener steps) [(opener, steps)] := by
  intro rest
  have whole : Generation.block .function opener steps ++ rest =
      .enter .function opener :: (steps ++ (.leave :: rest)) := by simp [Generation.block]
  rw [whole, functions, closed.within_leave, none]
  rfl

/-- Any other block declares what is inside. -/
theorem block (inside : Declares steps found) (other : kind ≠ .function) :
    Declares (Generation.block kind opener steps) found := by
  intro rest
  have whole : Generation.block kind opener steps ++ rest =
      .enter kind opener :: (steps ++ (.leave :: rest)) := by simp [Generation.block]
  rw [whole]
  cases kind <;> first | exact inside _ | exact absurd rfl other

theorem functions_eq (declares : Declares steps found) : functions steps = found := by
  have all := declares []
  rwa [List.append_nil, functions, List.append_nil] at all

end Declares

/-- Steps that can be inside a function: they close what they open, and declare none. -/
structure IsBody (steps : List Step) : Prop where
  closed : Closed steps
  declares : Declares steps []

namespace IsBody

theorem nil : IsBody [] := ⟨.nil, .nil⟩

theorem append (first : IsBody steps) (rest : IsBody others) : IsBody (steps ++ others) :=
  ⟨first.closed.append rest.closed, first.declares.append rest.declares⟩

theorem plain (isPlain : s.IsPlain = true) : IsBody [s] := ⟨.plain isPlain, .plain isPlain⟩

theorem cons (isPlain : s.IsPlain = true) (rest : IsBody steps) : IsBody (s :: steps) :=
  append (plain isPlain) rest

theorem flatMap {α : Type} {f : α → List Step} {xs : List α} (each : ∀ x ∈ xs, IsBody (f x)) :
    IsBody (xs.flatMap f) := by
  refine ⟨.flatMap fun x member => (each x member).closed, ?_⟩
  have none := Declares.flatMap fun x member => (each x member).declares
  rwa [List.flatMap_eq_nil_iff.mpr fun _ _ => rfl] at none

/-- Steps one by one, none of which is about blocks. -/
theorem of_plain (each : ∀ s ∈ steps, s.IsPlain = true) : IsBody steps := by
  have together : IsBody (steps.flatMap fun s => [s]) :=
    flatMap fun s member => plain (each s member)
  rwa [List.flatMap_singleton'] at together

theorem block (inside : IsBody steps) (other : kind ≠ .function) :
    IsBody (Generation.block kind opener steps) :=
  ⟨.block inside.closed, .block inside.declares other⟩

/-- The steps of a function. -/
theorem function (body : IsBody steps) :
    Declares (Generation.block .function opener steps) [(opener, steps)] :=
  .function body.closed body.declares

end IsBody

end Companion.Step

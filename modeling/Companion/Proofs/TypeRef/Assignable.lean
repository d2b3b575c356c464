import Companion.Proofs.Model.Hierarchy

/-! Whether a declared type can stand for another.

The answer follows from the steps to supertypes that lead away from its name. The search along them
ends on every hierarchy, whether or not steps lead round in it.
-/

set_option autoImplicit false

namespace Companion

namespace Hierarchy

variable {h : Hierarchy} {start target name : String} {fuel : Nat} {visited pending : List String}

/-- The search upwards from the pending names, with no bound on its steps, and its answer. -/
inductive Ascends (h : Hierarchy) (target : String) : List String → List String → Bool → Prop where
  | finished {visited : List String} : Ascends h target visited [] false
  | found {visited pending : List String} {name : String} : h.IsParent name target →
    Ascends h target visited (name :: pending) true
  | next {visited pending visited' pending' : List String} {name : String} {answer : Bool} :
    ¬h.IsParent name target →
    enqueue visited pending (h.parents name) = (visited', pending') →
    Ascends h target visited' pending' answer → Ascends h target visited (name :: pending) answer

theorem Ascends.unique {answer other : Bool} (first : h.Ascends target visited pending answer)
    (second : h.Ascends target visited pending other) : answer = other := by
  induction first with
  | finished =>
    cases second
    rfl
  | found here =>
    cases second with
    | found _ => rfl
    | next elsewhere _ _ => exact absurd here elsewhere
  | next elsewhere added _ ih =>
    cases second with
    | found here => exact absurd here elsewhere
    | next _ added' above =>
      cases added.symm.trans added'
      exact ih above

/-- With enough fuel, the search goes as it goes without a bound. -/
theorem ascends_reachesWithin (search : h.IsSearch start target fuel visited pending) :
    h.Ascends target visited pending (h.reachesWithin target fuel visited pending) := by
  induction fuel generalizing visited pending with
  | zero =>
    cases pending with
    | nil => exact .finished
    | cons name pending => exact absurd search.fuel_pos (Nat.lt_irrefl 0)
  | succ fuel ih =>
    cases pending with
    | nil => exact .finished
    | cons name pending =>
      rw [reachesWithin]
      split
      · next here => exact .found (List.contains_iff_mem.mp here)
      · next other =>
        have elsewhere : ¬h.IsParent name target :=
          fun step => other (List.contains_iff_mem.mpr step)
        obtain ⟨fresh, added, distinct, inside, all⟩ :=
          enqueue_spec visited pending (h.parents name)
        rw [added]
        exact .next elsewhere added
          (ih (search.next elsewhere (distinct search.distinct) inside all))

end Hierarchy

namespace TypeRef

open Hierarchy Relation

variable {hierarchy : Hierarchy} {declared target : TypeRef}

/-- A declared type stands for the traits that all generated types have, and for what steps to
supertypes lead to from its name. That is always known, and the search for it ends. -/
theorem assignability_of_declared
    (isDeclared : (hierarchy.supertypes? declared.dereferenced.simpleName).isSome = true)
    (notLibrary : declared.dereferenced.libraryTraits? = none)
    (differs : ¬(declared.dereferenced.shape = target.shape ∧
      declared.dereferenced.simpleName = target.simpleName)) :
    let start := declared.dereferenced.simpleName
    let stands := target.simpleName ∈ ["Debug", "Clone", "PartialEq"] ∨
      TransGen hierarchy.IsParent start target.simpleName
    (∃! answer, hierarchy.Ascends target.simpleName [start] [start] answer) ∧
      (assignability declared target hierarchy = .assignable ↔ stands) ∧
      (assignability declared target hierarchy = .notAssignable ↔ ¬stands) ∧
      assignability declared target hierarchy ≠ .unknown := by
  intro start stands
  have answer : assignability declared target hierarchy =
      if generatedTraits.contains target.simpleName || hierarchy.reaches start target.simpleName
      then .assignable else .notAssignable := by
    have known : (hierarchy.supertypes? declared.dereferenced.simpleName).isNone = false := by
      rw [Option.isNone_eq_false_iff, isDeclared]
    simp only [assignability, if_neg differs, notLibrary, known, Bool.false_eq_true, if_false]
    rfl
  have decided : (generatedTraits.contains target.simpleName ||
      hierarchy.reaches start target.simpleName) = true ↔ stands := by
    rw [Bool.or_eq_true, List.contains_iff_mem, reaches_iff]
    rfl
  refine ⟨⟨_, ascends_reachesWithin isSearch_start, fun _ ascended =>
    ascended.unique (ascends_reachesWithin isSearch_start)⟩, ?_⟩
  rw [answer, ← decided]
  split <;> simp_all

/-- Steps to supertypes lead round between `Circle` and `Shape`, and out to `Drawable`. -/
theorem assignability_of_declared_round :
    let hierarchy : Hierarchy :=
      ⟨[("Circle", ["geometry::Shape"]), ("Shape", ["Circle", "canvas::Drawable"])]⟩
    let declared : TypeRef := .reference none false (.named "geometry::Circle")
    (hierarchy.supertypes? declared.dereferenced.simpleName).isSome = true ∧
      declared.dereferenced.libraryTraits? = none ∧
      assignability declared (.named "Drawable") hierarchy = .assignable := by
  intro hierarchy declared
  have isDeclared : (hierarchy.supertypes? declared.dereferenced.simpleName).isSome = true := by
    decide +kernel
  have notLibrary : declared.dereferenced.libraryTraits? = none := by decide +kernel
  have differs : ¬(declared.dereferenced.shape = (named "Drawable").shape ∧
      declared.dereferenced.simpleName = (named "Drawable").simpleName) := by decide +kernel
  have toShape : hierarchy.IsParent declared.dereferenced.simpleName "Shape" := by
    rw [IsParent]
    decide +kernel
  have toDrawable : hierarchy.IsParent "Shape" (named "Drawable").simpleName := by
    rw [IsParent]
    decide +kernel
  refine ⟨isDeclared, notLibrary, ?_⟩
  exact (assignability_of_declared isDeclared notLibrary differs).2.1.mpr
    (.inr ((TransGen.single toShape).tail toDrawable))

end TypeRef

end Companion

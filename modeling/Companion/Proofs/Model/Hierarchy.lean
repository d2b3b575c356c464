import Companion.Proofs.Text.Dictionary
import Companion.TypeRef.Assignable
import Mathlib.Data.List.Perm.Subperm
import Mathlib.Logic.Relation

/-! The search for a supertype finds what steps to supertypes lead to.

No name is seen twice, so that the search is done before its fuel is. A name that was dealt with has
no parent that was not seen.
-/

set_option autoImplicit false

namespace Companion.Hierarchy

variable {h : Hierarchy} {start target : String}

/-- One step to a supertype. -/
def IsParent (h : Hierarchy) (name parent : String) : Prop := parent ∈ h.parents name

theorem mem_names_of_isParent {name parent : String} (step : h.IsParent name parent) :
    parent ∈ h.names := by
  rw [IsParent, parents] at step
  cases found : h.supertypes? name with
  | none => simp [found] at step
  | some supertypes =>
    rw [found] at step
    exact List.mem_flatMap.mpr ⟨_, mem_of_lookup_eq_some found, step⟩

/-- What is added to the names to visit are the names that had not been seen. -/
theorem enqueue_spec (visited pending more : List String) :
    ∃ fresh, enqueue visited pending more = (fresh ++ visited, fresh ++ pending) ∧
      (visited.Nodup → (fresh ++ visited).Nodup) ∧ fresh ⊆ more ∧ more ⊆ fresh ++ visited := by
  induction more generalizing visited pending with
  | nil => exact ⟨[], rfl, id, List.Subset.refl _, List.nil_subset _⟩
  | cons name more ih =>
    rw [enqueue]
    split
    · next known =>
      obtain ⟨fresh, added, distinct, inside, all⟩ := ih visited pending
      refine ⟨fresh, added, distinct, List.subset_cons_of_subset _ inside,
        List.cons_subset.mpr ⟨?_, all⟩⟩
      exact List.mem_append_right _ (List.contains_iff_mem.mp known)
    · next unseen =>
      obtain ⟨fresh, added, distinct, inside, all⟩ := ih (name :: visited) (name :: pending)
      refine ⟨fresh ++ [name], by simpa using added, fun apart => ?_, ?_, ?_⟩
      · have wider : (name :: visited).Nodup :=
          List.nodup_cons.mpr ⟨by simpa using unseen, apart⟩
        simpa using distinct wider
      · exact List.append_subset.mpr
          ⟨List.subset_cons_of_subset _ inside, by simp⟩
      · exact List.cons_subset.mpr ⟨by simp, by simpa using all⟩

/-- What a search has seen, what of it is to be visited, and what is left of its fuel. -/
structure IsSearch (h : Hierarchy) (start target : String) (fuel : Nat)
    (visited pending : List String) : Prop where
  distinct : visited.Nodup
  inside : visited ⊆ start :: h.names
  enough : pending.length + (h.names.length + 1) ≤ fuel + visited.length
  seen : pending ⊆ visited
  started : start ∈ visited
  reached : ∀ name ∈ visited, Relation.ReflTransGen h.IsParent start name
  settled : ∀ name ∈ visited, name ∉ pending →
    ¬ h.IsParent name target ∧ h.parents name ⊆ visited

namespace IsSearch

variable {fuel : Nat} {visited pending : List String} {name : String}

/-- There is fuel as long as there is something to visit. -/
theorem fuel_pos (search : h.IsSearch start target fuel visited (name :: pending)) : 0 < fuel := by
  have bound := (search.distinct.subperm search.inside).length_le
  have enough := search.enough
  simp only [List.length_cons] at bound enough
  omega

/-- The step: a name is visited that is no child of the target. -/
theorem next (search : h.IsSearch start target (fuel + 1) visited (name :: pending))
    (other : ¬ h.IsParent name target) {fresh : List String}
    (distinct : (fresh ++ visited).Nodup) (inside : fresh ⊆ h.parents name)
    (all : h.parents name ⊆ fresh ++ visited) :
    h.IsSearch start target fuel (fresh ++ visited) (fresh ++ pending) where
  distinct := distinct
  inside := List.append_subset.mpr ⟨fun parent member => List.mem_cons_of_mem _
    (mem_names_of_isParent (inside member)), search.inside⟩
  enough := by
    have enough := search.enough
    simp only [List.length_cons, List.length_append] at enough ⊢
    omega
  seen := by
    refine List.append_subset.mpr ⟨List.subset_append_left .., fun other member => ?_⟩
    exact List.mem_append_right _ (search.seen (List.mem_cons_of_mem _ member))
  started := List.mem_append_right _ search.started
  reached := by
    have visiting := search.reached name (search.seen List.mem_cons_self)
    exact List.forall_mem_append.mpr
      ⟨fun parent member => visiting.tail (inside member), search.reached⟩
  settled := by
    intro seen member done
    simp only [List.mem_append, not_or] at member done
    by_cases same : seen = name
    · subst same
      exact ⟨other, all⟩
    · obtain ⟨apart, known⟩ := search.settled seen (member.resolve_left done.1)
        (List.not_mem_cons_of_ne_of_not_mem same done.2)
      exact ⟨apart, List.subset_append_of_subset_right _ known⟩

/-- What is settled altogether does not lead to the target. -/
theorem not_transGen (search : h.IsSearch start target fuel visited []) :
    ¬ Relation.TransGen h.IsParent start target := by
  have closed : ∀ {name}, Relation.ReflTransGen h.IsParent start name → name ∈ visited := by
    intro name steps
    induction steps with
    | refl => exact search.started
    | tail _ step known => exact (search.settled _ known List.not_mem_nil).2 step
  intro steps
  obtain ⟨last, before, step⟩ := Relation.TransGen.tail'_iff.mp steps
  exact (search.settled last (closed before) List.not_mem_nil).1 step

end IsSearch

theorem reachesWithin_iff {fuel : Nat} {visited pending : List String}
    (search : h.IsSearch start target fuel visited pending) :
    h.reachesWithin target fuel visited pending = true ↔
      Relation.TransGen h.IsParent start target := by
  induction fuel generalizing visited pending with
  | zero => cases pending with
    | nil =>
      simp only [reachesWithin, Bool.false_eq_true, false_iff]
      exact search.not_transGen
    | cons name pending => exact absurd search.fuel_pos (Nat.lt_irrefl 0)
  | succ fuel ih => cases pending with
    | nil =>
      simp only [reachesWithin, Bool.false_eq_true, false_iff]
      exact search.not_transGen
    | cons name pending =>
      rw [reachesWithin]
      split
      · next found =>
        have steps := search.reached name (search.seen List.mem_cons_self)
        exact iff_of_true rfl (.tail' steps (List.contains_iff_mem.mp found))
      · next other =>
        obtain ⟨fresh, added, distinct, inside, all⟩ :=
          enqueue_spec visited pending (h.parents name)
        rw [added]
        exact ih (search.next (fun step => other (List.contains_iff_mem.mpr step))
          (distinct search.distinct) inside all)

theorem isSearch_start : h.IsSearch start target (h.names.length + 1) [start] [start] where
  distinct := by simp
  inside := by simp
  enough := by simp; omega
  seen := List.Subset.refl _
  started := List.mem_singleton_self _
  reached := by simp [Relation.ReflTransGen.refl]
  settled := fun _ member other => absurd member other

/-- Whatever the names listed, the search follows the steps to supertypes. -/
theorem reaches_iff :
    h.reaches start target = true ↔ Relation.TransGen h.IsParent start target :=
  reachesWithin_iff isSearch_start

end Companion.Hierarchy

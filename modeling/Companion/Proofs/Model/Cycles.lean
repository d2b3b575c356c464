import Companion.Model.Batch
import Companion.Proofs.Text.Dictionary
import Mathlib.Data.List.Nodup
import Mathlib.Order.OrderIsoNat

/-! Where the search for a cycle finds none, there is none.

A node is done only once all nodes that it depends on are, so what is done is accessible.
-/

set_option autoImplicit false

namespace Companion.DependencyGraph

variable {g : DependencyGraph}

/-- A node from which a node is reached by one edge. -/
def IsNext (g : DependencyGraph) (next node : String) : Prop := next ∈ g.dependencies node

theorem mem_keys_of_isNext {next node : String} (edge : g.IsNext next node) :
    node ∈ g.edges.map Prod.fst := by
  rw [IsNext, dependencies] at edge
  cases found : g.edges.lookup node with
  | none => simp [found] at edge
  | some targets => exact List.mem_map.mpr ⟨_, mem_of_lookup_eq_some found, rfl⟩

/-- A path of a search, and what is left of its fuel. -/
structure IsSearch (g : DependencyGraph) (fuel : Nat) (path : List String) : Prop where
  distinct : path.Nodup
  inside : ∀ node ∈ path, node ∈ g.edges.map Prod.fst
  enough : g.edges.length + 2 ≤ fuel + path.length

namespace IsSearch

variable {fuel : Nat} {path : List String} {node target : String}

theorem length_le (search : g.IsSearch fuel path) : path.length ≤ g.edges.length := by
  have bound := (search.distinct.subperm fun _ => search.inside _).length_le
  rwa [List.length_map] at bound

/-- The fuel is not used up before nodes repeat. -/
theorem fuel_pos (search : g.IsSearch fuel path) : 2 ≤ fuel := by
  have bound := search.length_le
  have enough := search.enough
  omega

theorem next (search : g.IsSearch (fuel + 1) path) (fresh : node ∉ path)
    (edge : g.IsNext target node) : g.IsSearch fuel (node :: path) where
  distinct := List.nodup_cons.mpr ⟨fresh, search.distinct⟩
  inside := List.forall_mem_cons.mpr ⟨mem_keys_of_isNext edge, search.inside⟩
  enough := by
    have enough := search.enough
    rw [List.length_cons]
    omega

end IsSearch

theorem isSearch_start : g.IsSearch (g.edges.length + 2) [] :=
  ⟨List.nodup_nil, by simp, by simp⟩

/-- Nodes that have been dealt with: none of them leads on forever. -/
def AllAccessible (g : DependencyGraph) (done : List String) : Prop :=
  ∀ node ∈ done, Acc g.IsNext node

/-- What a search adds to the nodes that are done. -/
structure Extends (g : DependencyGraph) (done done' : List String) : Prop where
  kept : done ⊆ done'
  accessible : g.AllAccessible done → g.AllAccessible done'

theorem Extends.refl (done : List String) : g.Extends done done := ⟨List.Subset.refl _, id⟩

theorem Extends.trans {done done' done'' : List String} (first : g.Extends done done')
    (second : g.Extends done' done'') : g.Extends done done'' :=
  ⟨List.Subset.trans first.kept second.kept, second.accessible ∘ first.accessible⟩

/-- Searches one after the other are done with all their nodes. -/
theorem foldlM_ok {search : List String → String → Except (List String) (List String)}
    {targets done done' : List String}
    (each : ∀ target ∈ targets, ∀ done done', search done target = .ok done' →
      g.Extends done done' ∧ target ∈ done')
    (ran : targets.foldlM search done = .ok done') : g.Extends done done' ∧ targets ⊆ done' := by
  induction targets generalizing done with
  | nil =>
    cases ran
    exact ⟨.refl _, List.nil_subset _⟩
  | cons target targets ih =>
    obtain ⟨first, others⟩ := List.forall_mem_cons.mp each
    cases searched : search done target with
    | error cycle =>
      rw [List.foldlM_cons, searched] at ran
      cases ran
    | ok between =>
      rw [List.foldlM_cons, searched] at ran
      obtain ⟨extends₁, member⟩ := first done between searched
      obtain ⟨extends₂, rest⟩ := ih others ran
      exact ⟨extends₁.trans extends₂, List.cons_subset.mpr ⟨extends₂.kept member, rest⟩⟩

/-- A search that finds no cycle is done with its node. -/
theorem visit_ok {fuel : Nat} {path done done' : List String} {node : String}
    (search : g.IsSearch fuel path) (visited : g.visit fuel path done node = .ok done') :
    g.Extends done done' ∧ node ∈ done' := by
  induction fuel generalizing path done done' node with
  | zero =>
    have positive := search.fuel_pos
    omega
  | succ fuel ih =>
    rw [visit] at visited
    split at visited
    · cases visited
    · next fresh =>
      split at visited
      · next known =>
        cases visited
        exact ⟨.refl _, by simpa using known⟩
      · cases ran : (g.dependencies node).foldlM
          (fun done next => g.visit fuel (node :: path) done next) done with
        | error cycle =>
          rw [ran] at visited
          cases visited
        | ok between =>
          rw [ran] at visited
          cases visited
          obtain ⟨extended, targets⟩ := foldlM_ok (g := g) (fun target edge done done' found =>
            ih (search.next (by simpa using fresh) edge) found) ran
          refine ⟨⟨List.subset_cons_of_subset _ extended.kept, fun start => ?_⟩,
            List.mem_cons_self ..⟩
          -- The node follows from its targets, which are all done by now.
          have accessible := extended.accessible start
          exact List.forall_mem_cons.mpr
            ⟨.intro _ fun target edge => accessible target (targets edge), accessible⟩

/-- From a node that no cycle is found from, no edges lead on forever. -/
theorem acc_of_cycleFrom?_eq_none {node : String} (none : g.cycleFrom? node = none) :
    Acc g.IsNext node := by
  unfold cycleFrom? at none
  split at none
  · next done found =>
    obtain ⟨extended, member⟩ := visit_ok isSearch_start found
    exact extended.accessible (by simp [AllAccessible]) node member
  · cases none

end Companion.DependencyGraph

import Companion.Proofs.Model.Cycles
import Mathlib.Data.List.Chain
import Mathlib.Logic.Relation

/-! The search for a cycle ends, and gives a cycle wherever one can be reached.

The path of a search leads back to its start along edges and passes no node twice, so a node that is
on it already closes a cycle.
-/

set_option autoImplicit false

namespace Companion.DependencyGraph

open Relation

variable {g : DependencyGraph} {fuel : Nat} {path done cycle targets : List String}
  {start node target : String}

/-- Whether edges lead to a node from the start, or it is the start. -/
def IsReached (g : DependencyGraph) (start node : String) : Prop := ReflTransGen g.IsNext node start

/-- Whether edges lead from a node back to it. -/
def IsOnCycle (g : DependencyGraph) (node : String) : Prop := TransGen g.IsNext node node

/-- A closed path: along edges, back to where it starts, and past no node twice. -/
structure IsCycle (g : DependencyGraph) (cycle : List String) : Prop where
  long : 2 ≤ cycle.length
  closed : cycle.head? = cycle.getLast?
  distinct : cycle.dropLast.Nodup
  linked : cycle.IsChain fun node next => g.IsNext next node

/-! ### Searches without a bound -/

/-- The search from nodes in turn, with no bound on how deep it goes, and what it gives. -/
inductive Searches (g : DependencyGraph) :
    List String → List String → List String → Except (List String) (List String) → Prop where
  | finished {path done : List String} : Searches g path done [] (.ok done)
  | closed {path done targets : List String} {node : String} : node ∈ path →
    Searches g path done (node :: targets)
      (.error (node :: (path.takeWhile (· ≠ node)).reverse ++ [node]))
  | known {path done targets : List String} {node : String}
    {result : Except (List String) (List String)} : node ∉ path → node ∈ done →
    Searches g path done targets result → Searches g path done (node :: targets) result
  | next {path done done' targets : List String} {node : String}
    {result : Except (List String) (List String)} : node ∉ path → node ∉ done →
    Searches g (node :: path) done (g.dependencies node) (.ok done') →
    Searches g path (node :: done') targets result → Searches g path done (node :: targets) result
  | found {path done cycle targets : List String} {node : String} : node ∉ path → node ∉ done →
    Searches g (node :: path) done (g.dependencies node) (.error cycle) →
    Searches g path done (node :: targets) (.error cycle)

theorem Searches.unique {result other : Except (List String) (List String)}
    (first : g.Searches path done targets result) (second : g.Searches path done targets other) :
    result = other := by
  induction first generalizing other with
  | finished =>
    cases second
    rfl
  | closed onPath =>
    cases second with
    | closed _ => rfl
    | known fresh _ _ => exact absurd onPath fresh
    | next fresh _ _ _ => exact absurd onPath fresh
    | found fresh _ _ => exact absurd onPath fresh
  | known fresh isDone _ ih =>
    cases second with
    | closed onPath => exact absurd onPath fresh
    | known _ _ others => exact ih others
    | next _ new _ _ => exact absurd isDone new
    | found _ new _ => exact absurd isDone new
  | next fresh new _ _ ihBelow ih =>
    cases second with
    | closed onPath => exact absurd onPath fresh
    | known _ isDone _ => exact absurd isDone new
    | next _ _ below others =>
      cases ihBelow below
      exact ih others
    | found _ _ below => cases ihBelow below
  | found fresh new _ ih =>
    cases second with
    | closed onPath => exact absurd onPath fresh
    | known _ isDone _ => exact absurd isDone new
    | next _ _ below _ => cases ih below
    | found _ _ below => exact ih below

/-- With enough fuel, searches from nodes in turn go as they go without a bound. -/
theorem searches_foldlM (search : g.IsSearch fuel path) :
    g.Searches path done targets
      (targets.foldlM (fun done target => g.visit fuel path done target) done) := by
  induction fuel generalizing path done targets with
  | zero =>
    have positive := search.fuel_pos
    omega
  | succ fuel ih =>
    induction targets generalizing done with
    | nil => exact .finished
    | cons node targets ihTargets =>
      rw [List.foldlM_cons, visit]
      split
      · next onPath => exact .closed (List.contains_iff_mem.mp onPath)
      · next fresh =>
        have apart : node ∉ path := fun onPath => fresh (List.contains_iff_mem.mpr onPath)
        split
        · next isDone => exact .known apart (List.contains_iff_mem.mp isDone) ihTargets
        · next new =>
          have undone : node ∉ done := fun isDone => new (List.contains_iff_mem.mpr isDone)
          have below : g.Searches (node :: path) done (g.dependencies node)
              ((g.dependencies node).foldlM
                (fun done target => g.visit fuel (node :: path) done target) done) := by
            cases edges : g.dependencies node with
            | nil => exact .finished
            | cons target _ =>
              have edge : g.IsNext target node := by simp [IsNext, edges]
              exact ih (search.next apart edge)
          cases ran : (g.dependencies node).foldlM
              (fun done target => g.visit fuel (node :: path) done target) done with
          | error cycle => exact .found apart undone (ran ▸ below)
          | ok done' => exact .next apart undone (ran ▸ below) ihTargets

/-- The search from a node ends, and with what is given. -/
theorem searches_start :
    g.Searches [] [] [start] (g.visit (g.edges.length + 2) [] [] start) := by
  have ended : g.Searches [] [] [start] ([start].foldlM
      (fun done target => g.visit (g.edges.length + 2) [] done target) []) :=
    searches_foldlM isSearch_start
  rwa [List.foldlM_cons, funext fun _ => List.foldlM_nil .., bind_pure] at ended

/-! ### What a search gives -/

/-- The path of a search that has come to a node. It leads back from there to the start. -/
structure LeadsTo (g : DependencyGraph) (start : String) (path : List String) (node : String) :
    Prop where
  distinct : path.Nodup
  linked : (node :: path).IsChain g.IsNext
  reached : ∀ passed ∈ node :: path, g.IsReached start passed

theorem leadsTo_start : g.LeadsTo start [] start :=
  ⟨List.nodup_nil, List.isChain_singleton _,
    List.forall_mem_singleton.mpr ReflTransGen.refl⟩

theorem LeadsTo.next (leads : g.LeadsTo start path node) (fresh : node ∉ path)
    (edge : g.IsNext target node) : g.LeadsTo start (node :: path) target where
  distinct := List.nodup_cons.mpr ⟨fresh, leads.distinct⟩
  linked := List.isChain_cons_cons.mpr ⟨edge, leads.linked⟩
  reached := List.forall_mem_cons.mpr
    ⟨ReflTransGen.head edge (leads.reached node List.mem_cons_self), leads.reached⟩

/-- A path that comes to a node again has gone round a cycle since it left it. -/
theorem LeadsTo.isCycle (leads : g.LeadsTo start path node) (onPath : node ∈ path) :
    g.IsCycle (node :: (path.takeWhile (· ≠ node)).reverse ++ [node]) := by
  obtain ⟨round, before, rfl, fresh⟩ := List.eq_append_cons_of_mem onPath
  have cut : (round ++ node :: before).takeWhile (· ≠ node) = round := by
    rw [List.takeWhile_append_of_pos fun passed member =>
      decide_eq_true (ne_of_mem_of_not_mem member fresh)]
    simp
  rw [cut]
  exact {
    long := by simp
    closed := by rw [List.getLast?_concat, List.cons_append, List.head?_cons]
    distinct := by
      rw [List.dropLast_concat, List.nodup_cons, List.nodup_reverse, List.mem_reverse]
      exact ⟨fresh, leads.distinct.of_append_left⟩
    linked := by
      have around : (node :: round ++ [node]).IsChain g.IsNext :=
        leads.linked.prefix ⟨before, by simp⟩
      have turned : node :: round.reverse ++ [node] = (node :: round ++ [node]).reverse := by simp
      rw [turned, List.isChain_reverse]
      exact around }

theorem LeadsTo.isCycle_of_searches {result : Except (List String) (List String)}
    (searched : g.Searches path done targets result) (failed : result = .error cycle)
    (leads : ∀ target ∈ targets, g.LeadsTo start path target) :
    g.IsCycle cycle ∧ ∃ first, cycle.head? = some first ∧ g.IsReached start first := by
  induction searched with
  | finished => cases failed
  | closed onPath =>
    cases failed
    have here := leads _ List.mem_cons_self
    exact ⟨here.isCycle onPath, _, rfl, here.reached _ List.mem_cons_self⟩
  | known _ _ _ ih => exact ih failed (List.forall_mem_cons.mp leads).2
  | next _ _ _ _ _ ih => exact ih failed (List.forall_mem_cons.mp leads).2
  | found fresh _ _ ih =>
    exact ih failed fun target edge => (leads _ List.mem_cons_self).next fresh edge

/-- Where no edges lead on forever, no node that is reached is on a cycle. -/
theorem not_isOnCycle_of_acc (accessible : Acc g.IsNext start) (reached : g.IsReached start node) :
    ¬g.IsOnCycle node := by
  have here : Acc g.IsNext node :=
    reached.head_induction_on accessible fun edge _ accessible => accessible.inv edge
  have irreflexive {passed : String} (accessible : Acc (TransGen g.IsNext) passed) :
      ¬TransGen g.IsNext passed passed := by
    induction accessible with
    | intro passed _ ih => exact fun round => ih passed round round
  exact irreflexive here.transGen

theorem IsCycle.isOnCycle (isCycle : g.IsCycle cycle) (first : cycle.head? = some node) :
    g.IsOnCycle node := by
  have transitive : Trans (fun node next => TransGen g.IsNext next node)
      (fun node next => TransGen g.IsNext next node)
      (fun node next => TransGen g.IsNext next node) := ⟨fun near far => far.trans near⟩
  obtain ⟨others, rfl⟩ := List.head?_eq_some_iff.mp first
  have later := (isCycle.linked.imp fun _ _ => TransGen.single).pairwise
  -- The path ends in its first node, which therefore comes after itself.
  have last : node ∈ others := by
    have long := isCycle.long
    have closed := isCycle.closed
    cases others with
    | nil => simp at long
    | cons next others =>
      rw [List.head?_cons, List.getLast?_cons_cons] at closed
      exact List.mem_of_getLast? closed.symm
  exact (List.pairwise_cons.mp later).1 node last

theorem cycleFrom?_eq_some_iff :
    g.cycleFrom? start = some cycle ↔ g.Searches [] [] [start] (.error cycle) := by
  have ended : g.Searches [] [] [start] (g.visit (g.edges.length + 2) [] [] start) :=
    searches_start
  unfold cycleFrom?
  cases ran : g.visit (g.edges.length + 2) [] [] start with
  | ok done =>
    rw [ran] at ended
    exact iff_of_false nofun fun searched => nomatch ended.unique searched
  | error found =>
    rw [ran] at ended
    exact ⟨fun same => Option.some.inj same ▸ ended,
      fun searched => congrArg some (Except.error.inj (ended.unique searched))⟩

/-- The search for a cycle ends and gives the cycle that it finds. There is one to find if and only
if a cycle can be reached, and what it gives is one. -/
theorem cycleFrom?_finds_cycles (g : DependencyGraph) (start : String) :
    (∃! result, g.Searches [] [] [start] result) ∧
      (∀ cycle, g.cycleFrom? start = some cycle ↔ g.Searches [] [] [start] (.error cycle)) ∧
      ((g.cycleFrom? start).isSome ↔ ∃ node, g.IsReached start node ∧ g.IsOnCycle node) ∧
      ∀ cycle, g.cycleFrom? start = some cycle →
        g.IsCycle cycle ∧ ∃ first, cycle.head? = some first ∧ g.IsReached start first := by
  have sound (cycle : List String) (found : g.cycleFrom? start = some cycle) :
      g.IsCycle cycle ∧ ∃ first, cycle.head? = some first ∧ g.IsReached start first :=
    LeadsTo.isCycle_of_searches (cycleFrom?_eq_some_iff.mp found) rfl
      (List.forall_mem_singleton.mpr leadsTo_start)
  refine ⟨⟨_, searches_start, fun _ searched => searched.unique searches_start⟩,
    fun _ => cycleFrom?_eq_some_iff, ⟨fun found => ?_, ?_⟩, sound⟩
  · obtain ⟨cycle, found⟩ := Option.isSome_iff_exists.mp found
    obtain ⟨isCycle, first, starts, reached⟩ := sound cycle found
    exact ⟨first, reached, isCycle.isOnCycle starts⟩
  · rintro ⟨node, reached, round⟩
    refine Option.isSome_iff_ne_none.mpr fun none => ?_
    exact not_isOnCycle_of_acc (acc_of_cycleFrom?_eq_none none) reached round

/-- The cycle begins where the search first comes to it. -/
example : cycleFrom? ⟨[("Order", ["Line"]), ("Line", ["Item"]), ("Item", ["Line"])]⟩ "Order" =
    some ["Line", "Item", "Line"] := by
  decide

end Companion.DependencyGraph

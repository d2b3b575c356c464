import Companion.Generate.Workers
import Companion.Proofs.Generate.Delivery
import Mathlib.Data.List.Perm.Basic

/-! What a pool of workers has done, whatever the order of their steps.

Jobs are generated, handed over and stored in three orders. Each worker is in between two of them
with at most one job.
-/

set_option autoImplicit false

namespace Companion

open Run

variable {σ : Type} {r : Run} {sink : Sink (StateM σ)} {s : σ}

theorem run_bind_of_run {α β : Type} {x : StateM σ α} {f : α → StateM σ β} {a : α} {s₁ : σ}
    (ran : x.run s = (a, s₁)) : (x >>= f).run s = (f a).run s₁ := by
  rw [StateT.run_bind, ran]
  rfl

/-- An action before others. -/
theorem run_mapM_cons {α β : Type} {f : α → StateM σ β} {x : α} {xs : List α} {y : β} {ys : List β}
    {s₁ s₂ : σ} (first : (f x).run s = (y, s₁)) (ran : (xs.mapM f).run s₁ = (ys, s₂)) :
    ((x :: xs).mapM f).run s = (y :: ys, s₂) := by
  rw [List.mapM_cons, run_bind_of_run first, run_bind_of_run ran]
  rfl

/-- An action after others. -/
theorem run_mapM_concat {α β : Type} {f : α → StateM σ β} {xs : List α} {ys : List β} {x : α}
    {y : β} {s₁ s₂ : σ} (ran : (xs.mapM f).run s = (ys, s₁)) (last : (f x).run s₁ = (y, s₂)) :
    ((xs ++ [x]).mapM f).run s = (ys ++ [y], s₂) := by
  rw [List.mapM_append, run_bind_of_run ran, run_bind_of_run (run_mapM_cons last rfl)]
  rfl

theorem run_answers_cons {a : Artifact} {units : List Artifact} {answer : Except String Unit}
    {said : List (Except String Unit)} {s₁ s₂ : σ}
    (first : (sink a.fileName a.state.content).run s = (answer, s₁))
    (ran : (answers sink units).run s₁ = (said, s₂)) :
    (answers sink (a :: units)).run s = (answer :: said, s₂) :=
  run_mapM_cons (f := fun a : Artifact => sink a.fileName a.state.content) first ran

/-- Every declaration that was generated has a record that follows from what a sink said. -/
theorem product_of_replayed {generated : List Processed} {s' : σ}
    (replayed : ((generated.map (·.job)).mapM (r.process sink)).run s =
      (generated.map (·.product), s')) :
    ∀ x ∈ generated, ∃ said, said.length = (r.unitsOf x.job).length ∧
      x.product = (.ok (r.recordFor x.job said), r.reportsFor x.job said) := by
  induction generated generalizing s with
  | nil => simp
  | cons x generated ih =>
    obtain ⟨said, s₁, size, ran⟩ := r.process_ok sink x.job s
    obtain ⟨products, s₂, others⟩ : ∃ products s₂,
        ((generated.map (·.job)).mapM (r.process sink)).run s₁ = (products, s₂) := ⟨_, _, rfl⟩
    obtain ⟨same, rfl⟩ := Prod.mk.inj ((run_mapM_cons ran others).symm.trans replayed)
    obtain ⟨product, rfl⟩ := List.cons.inj same
    exact List.forall_mem_cons.mpr ⟨⟨said, size, product.symm⟩, ih others⟩

namespace Worker

/-- The job that a worker has taken but not generated. -/
def taken : Worker → List (Job × Nat)
  | generating index job => [(job, index)]
  | _ => []

/-- The job that a worker has generated but not handed over. -/
def unflushed : Worker → List Processed
  | flushing x => [x]
  | _ => []

/-- The job that a worker has handed over but not stored. -/
def unstored : Worker → List Processed
  | aborting x | storing x => [x]
  | _ => []

/-- What a worker has yet to do in its round. -/
def weight : Worker → Nat
  | stopped => 0
  | taking => 1
  | looking => 2
  | storing _ => 3
  | aborting _ => 4
  | flushing _ => 5
  | generating .. => 6

end Worker

/-- Slots after records were stored in them. -/
def Shared.filled (slots : List (Option (Except EmitError DeclarationRecord)))
    (stored : List Processed) : List (Option (Except EmitError DeclarationRecord)) :=
  stored.foldl (fun slots x => slots.set x.index (some x.product.1)) slots

/-- Workers and what they share, explained by the jobs that were generated, handed over and stored,
each in order. -/
structure Shared.Explained (r : Run) (sink : Sink (StateM σ)) (s : σ) (workers : List Worker)
    (shared : Shared σ) (generated flushed stored : List Processed) : Prop where
  replayed : ((generated.map (·.job)).mapM (r.process sink)).run s =
    (generated.map (·.product), shared.sinkState)
  taken : (generated.map (fun x => (x.job, x.index)) ++ workers.flatMap Worker.taken).Perm
    (r.jobs.zipIdx.take shared.next)
  flushes : generated.Perm (flushed ++ workers.flatMap Worker.unflushed)
  reported : shared.reported = flushed.flatMap (·.product.2.entries)
  stores : flushed.Perm (stored ++ workers.flatMap Worker.unstored)
  slots : shared.slots = filled (List.replicate r.jobs.length none) stored
  going : shared.isAborted = false
  steadfast : ∀ x, .aborting x ∉ workers
  exhausted : .stopped ∈ workers → r.jobs.length ≤ shared.next

namespace Shared.Explained

variable {shared : Shared σ} {workers others : List Worker} {worker : Worker}
  {generated flushed stored : List Processed}

/-- It does not matter which worker is which. -/
theorem perm (known : Explained r sink s workers shared generated flushed stored)
    (same : workers.Perm others) : Explained r sink s others shared generated flushed stored where
  replayed := known.replayed
  taken := ((same.flatMap_right _).symm.append_left _).trans known.taken
  flushes := known.flushes.trans ((same.flatMap_right _).append_left _)
  reported := known.reported
  stores := known.stores.trans ((same.flatMap_right _).append_left _)
  slots := known.slots
  going := known.going
  steadfast x member := known.steadfast x (same.mem_iff.mpr member)
  exhausted member := known.exhausted (same.mem_iff.mpr member)

theorem start (r : Run) (sink : Sink (StateM σ)) (s : σ) (count : Nat) :
    Explained r sink s (List.replicate count .looking)
      ⟨0, false, List.replicate r.jobs.length none, [], s⟩ [] [] [] where
  replayed := rfl
  taken := by simp [List.flatMap_replicate, Worker.taken]
  flushes := by simp [List.flatMap_replicate, Worker.unflushed]
  reported := rfl
  stores := by simp [List.flatMap_replicate, Worker.unstored]
  slots := rfl
  going := rfl
  steadfast x member := by simp [List.mem_replicate] at member
  exhausted member := by simp [List.mem_replicate] at member

theorem look (known : Explained r sink s (.looking :: others) shared generated flushed stored) :
    Explained r sink s (.taking :: others) shared generated flushed stored :=
  { known with
    steadfast := by simpa using known.steadfast
    exhausted := by simpa using known.exhausted }

theorem take {job : Job}
    (known : Explained r sink s (.taking :: others) shared generated flushed stored)
    (found : r.jobs[shared.next]? = some job) :
    Explained r sink s (.generating shared.next job :: others)
      { shared with next := shared.next + 1 } generated flushed stored :=
  { known with
    taken := by
      have extended : r.jobs.zipIdx.take (shared.next + 1) =
          r.jobs.zipIdx.take shared.next ++ [(job, shared.next)] := by
        rw [List.take_add_one, List.getElem?_zipIdx, found]
        simp
      rw [extended]
      exact (List.perm_middle.trans (List.Perm.cons _ known.taken)).trans
        (List.perm_append_singleton ..).symm
    steadfast := by simpa using known.steadfast
    exhausted := fun member => Nat.le_succ_of_le (known.exhausted (by simpa using member)) }

/-- Where the next index is past the jobs, all of them have been taken. -/
theorem stop (known : Explained r sink s (.taking :: others) shared generated flushed stored)
    (finished : r.jobs.length ≤ shared.next) :
    Explained r sink s (.stopped :: others) { shared with next := shared.next + 1 } generated
      flushed stored :=
  { known with
    taken := by
      have whole (n : Nat) (enough : r.jobs.length ≤ n) : r.jobs.zipIdx.take n = r.jobs.zipIdx :=
        List.take_of_length_le (by simpa using enough)
      rw [whole _ (Nat.le_succ_of_le finished), ← whole _ finished]
      exact known.taken
    steadfast := by simpa using known.steadfast
    exhausted := fun _ => Nat.le_succ_of_le finished }

theorem generate {index : Nat} {job : Job} {product : Product} {s' : σ}
    (known : Explained r sink s (.generating index job :: others) shared generated flushed stored)
    (ran : (r.process sink job).run shared.sinkState = (product, s')) :
    Explained r sink s (.flushing ⟨index, job, product⟩ :: others)
      { shared with sinkState := s' } (generated ++ [⟨index, job, product⟩]) flushed stored :=
  { known with
    replayed := by
      rw [List.map_append, List.map_append]
      exact run_mapM_concat known.replayed ran
    taken := by simpa [Worker.taken] using known.taken
    flushes := (List.perm_append_singleton ..).trans
      ((List.Perm.cons _ known.flushes).trans List.perm_middle.symm)
    steadfast := by simpa using known.steadfast
    exhausted := by simpa using known.exhausted }

theorem flush {x : Processed}
    (known : Explained r sink s (.flushing x :: others) shared generated flushed stored) :
    Explained r sink s (.storing x :: others)
      { shared with reported := (x.product.2.flush shared.reported).2 } generated (flushed ++ [x])
      stored :=
  { known with
    flushes := by simpa [Worker.unflushed] using known.flushes
    reported := by simp [known.reported]
    stores := (List.perm_append_singleton ..).trans
      ((List.Perm.cons x known.stores).trans List.perm_middle.symm)
    steadfast := by simpa using known.steadfast
    exhausted := by simpa using known.exhausted }

theorem store {x : Processed}
    (known : Explained r sink s (.storing x :: others) shared generated flushed stored) :
    Explained r sink s (.looking :: others)
      { shared with slots := shared.slots.set x.index (some x.product.1) } generated flushed
      (stored ++ [x]) :=
  { known with
    stores := by simpa [Worker.unstored] using known.stores
    slots := by simp [known.slots, filled]
    steadfast := by simpa using known.steadfast
    exhausted := by simpa using known.exhausted }

/-- No declaration ends a run, so that no worker gives it up. -/
theorem isOk_of_flushing {x : Processed}
    (known : Explained r sink s (.flushing x :: others) shared generated flushed stored) :
    ∃ record, x.product.1 = .ok record := by
  have member : x ∈ generated := known.flushes.mem_iff.mpr (by simp [Worker.unflushed])
  obtain ⟨said, -, product⟩ := product_of_replayed known.replayed x member
  exact ⟨_, congrArg Prod.fst product⟩

/-- The next step of a worker moves its job on. -/
theorem turn {next : Worker} {shared' : Shared σ}
    (known : Explained r sink s (worker :: others) shared generated flushed stored)
    (turned : worker.turn r sink shared = some (next, shared')) :
    ∃ generated flushed stored,
      Explained r sink s (next :: others) shared' generated flushed stored := by
  cases worker with
  | stopped => cases turned
  | looking =>
    rw [Worker.turn, known.going] at turned
    cases turned
    exact ⟨_, _, _, known.look⟩
  | taking =>
    cases found : r.jobs[shared.next]? with
    | none =>
      simp only [Worker.turn, found] at turned
      cases turned
      exact ⟨_, _, _, known.stop (List.getElem?_eq_none_iff.mp found)⟩
    | some job =>
      simp only [Worker.turn, found] at turned
      cases turned
      exact ⟨_, _, _, known.take found⟩
  | generating index job =>
    cases turned
    exact ⟨_, _, _, known.generate rfl⟩
  | flushing x =>
    obtain ⟨record, fine⟩ := known.isOk_of_flushing
    simp only [Worker.turn, fine] at turned
    cases turned
    exact ⟨_, _, _, known.flush⟩
  | aborting x => exact absurd List.mem_cons_self (known.steadfast x)
  | storing x =>
    cases turned
    exact ⟨_, _, _, known.store⟩

end Shared.Explained

/-! ### Slots -/

namespace Shared

theorem length_filled (slots : List (Option (Except EmitError DeclarationRecord)))
    (stored : List Processed) : (filled slots stored).length = slots.length := by
  induction stored generalizing slots with
  | nil => rfl
  | cons x stored ih => exact (ih _).trans (List.length_set ..)

theorem filled_of_untouched {slots : List (Option (Except EmitError DeclarationRecord))}
    {stored : List Processed} {i : Nat} (untouched : i ∉ stored.map (·.index)) :
    (filled slots stored)[i]? = slots[i]? := by
  induction stored generalizing slots with
  | nil => rfl
  | cons x stored ih =>
    rw [List.map_cons, List.mem_cons, not_or] at untouched
    obtain ⟨other, later⟩ := untouched
    exact (ih later).trans (List.getElem?_set_ne (Ne.symm other))

/-- A record stays in its slot, if no other one has it. -/
theorem filled_of_mem {slots : List (Option (Except EmitError DeclarationRecord))}
    {stored : List Processed} (apart : (stored.map (·.index)).Nodup) {x : Processed}
    (member : x ∈ stored) (inside : x.index < slots.length) :
    (filled slots stored)[x.index]? = some (some x.product.1) := by
  induction stored generalizing slots with
  | nil => cases member
  | cons y stored ih =>
    obtain ⟨alone, apart⟩ := List.nodup_cons.mp apart
    rcases List.mem_cons.mp member with rfl | later
    · exact (filled_of_untouched alone).trans (List.getElem?_set_self inside)
    · exact ih apart later (by simpa using inside)

/-- Where every slot is filled once, the slots list the records by their indices. -/
theorem filled_eq {stored inOrder : List Processed} (same : stored.Perm inOrder)
    (indexed : inOrder.map (·.index) = List.range inOrder.length) :
    filled (List.replicate inOrder.length none) stored =
      inOrder.map fun x => some x.product.1 := by
  refine List.ext_getElem? fun i => ?_
  rcases Nat.lt_or_ge i inOrder.length with inside | outside
  · have index : inOrder[i].index = i := by
      have found := congrArg (·[i]?) indexed
      simpa [inside] using found
    have apart : (stored.map (·.index)).Nodup := by
      rw [(same.map _).nodup_iff, indexed]
      exact List.nodup_range
    have found : (filled (List.replicate inOrder.length none) stored)[inOrder[i].index]? =
        some (some inOrder[i].product.1) :=
      filled_of_mem apart (same.mem_iff.mpr (List.getElem_mem inside))
        (by simpa [index] using inside)
    rw [index] at found
    rw [found, List.getElem?_map, List.getElem?_eq_getElem inside, Option.map_some]
  · rw [List.getElem?_eq_none (by simpa [length_filled] using outside),
      List.getElem?_eq_none (by simpa using outside)]

end Shared

end Companion

import Companion.Proofs.Generate.Workers
import Mathlib.Algebra.GroupWithZero.Nat
import Mathlib.Data.Set.List

/-! How runs end: with a record for each job, in the order of the jobs. -/

set_option autoImplicit false

namespace Companion

open Run

variable {σ : Type} {r : Run} {sink : Sink (StateM σ)} {s : σ}

/-- An end that the jobs give, as they were generated and handed over, each in some order. -/
structure Ending.Explained (r : Run) (sink : Sink (StateM σ)) (s : σ) (e : Ending σ)
    (generated flushed inOrder : List Processed) (records : List DeclarationRecord) : Prop where
  replayed : ((generated.map (·.job)).mapM (r.process sink)).run s =
    (generated.map (·.product), e.sinkState)
  sameGenerated : generated.Perm inOrder
  sameFlushed : flushed.Perm inOrder
  jobs : inOrder.map (·.job) = r.jobs
  recorded : inOrder.map (·.product.1) = records.map .ok
  result : e.result = .ok ⟨records⟩
  reported : e.reported = flushed.flatMap (·.product.2.entries)

/-- What is permuted can be permuted before a function is applied. -/
theorem exists_of_perm_map {α β : Type} {f : α → β} {ys : List β} {xs : List α}
    (same : ys.Perm (xs.map f)) : ∃ zs : List α, ys = zs.map f ∧ zs.Perm xs := by
  have split := congrFun (congrFun (List.eq_map_comp_perm f) ys) xs
  rw [← split] at same
  exact same

theorem exists_records {generated : List Processed} {s' : σ}
    (replayed : ((generated.map (·.job)).mapM (r.process sink)).run s =
      (generated.map (·.product), s')) {xs : List Processed} (same : xs.Perm generated) :
    ∃ records : List DeclarationRecord, xs.map (·.product.1) = records.map .ok := by
  have inside : xs.map (·.product.1) ∈ Set.range (List.map Except.ok) := by
    rw [Set.range_list_map]
    refine List.forall_mem_map.mpr fun x member => ?_
    obtain ⟨said, -, product⟩ := product_of_replayed replayed x (same.mem_iff.mp member)
    exact ⟨_, (congrArg Prod.fst product).symm⟩
  exact inside.imp fun _ => Eq.symm

/-- The records of a report follow from what a sink said to each unit. -/
theorem Ending.Explained.exists_said {e : Ending σ} {generated flushed inOrder : List Processed}
    {records : List DeclarationRecord}
    (known : e.Explained r sink s generated flushed inOrder records) {j : Job}
    {record : DeclarationRecord} (member : (j, record) ∈ r.jobs.zip records) :
    ∃ said, said.length = (r.unitsOf j).length ∧ record = r.recordFor j said := by
  have listed : (j, Except.ok record) ∈ inOrder.map fun x => (x.job, x.product.1) := by
    rw [← List.zip_map', known.jobs, known.recorded, List.zip_map_right]
    exact List.mem_map.mpr ⟨_, member, rfl⟩
  obtain ⟨x, inside, same⟩ := List.mem_map.mp listed
  obtain ⟨said, size, product⟩ :=
    product_of_replayed known.replayed x (known.sameGenerated.mem_iff.mpr inside)
  rw [product] at same
  cases same
  exact ⟨said, size, rfl⟩

theorem Ending.Explained.record_eq {e : Ending σ} {generated flushed inOrder : List Processed}
    {records : List DeclarationRecord}
    (known : e.Explained r sink s generated flushed inOrder records) {j : Job}
    {record : DeclarationRecord} (member : (j, record) ∈ r.jobs.zip records) :
    ∃ said, record = r.recordFor j said :=
  (known.exists_said member).imp fun _ => And.right

/-! ### Steps of a pool -/

namespace Pool

variable {p q : Pool σ} {w : Nat}

theorem step_cases (stepped : p.step r sink w = some q) :
    ∃ worker next others, worker.turn r sink p.shared = some (next, q.shared) ∧
      p.workers.Perm (worker :: others) ∧ q.workers.Perm (next :: others) ∧
      q.workers.length = p.workers.length := by
  simp only [step, Option.bind_eq_bind, Option.bind_eq_some_iff, Option.pure_def,
    Option.some.injEq] at stepped
  obtain ⟨worker, found, ⟨next, shared⟩, turned, rfl⟩ := stepped
  obtain ⟨inside, rfl⟩ := List.getElem?_eq_some_iff.mp found
  exact ⟨p.workers[w], next, p.workers.eraseIdx w, turned,
    (List.getElem_cons_eraseIdx_perm inside).symm, List.set_perm_cons_eraseIdx inside next,
    List.length_set ..⟩

/-- What is left to be done: of the jobs that no worker has taken, and of the rounds of workers. -/
def remaining (r : Run) (p : Pool σ) : Nat :=
  6 * (r.jobs.length - p.shared.next) + (p.workers.map Worker.weight).sum

/-- A round of a worker takes fewer steps than are allowed for a job. -/
theorem turn_decreases {worker next : Worker} {shared shared' : Shared σ}
    (turned : worker.turn r sink shared = some (next, shared')) :
    6 * (r.jobs.length - shared'.next) + next.weight <
      6 * (r.jobs.length - shared.next) + worker.weight := by
  cases worker with
  | stopped => cases turned
  | looking =>
    cases turned
    split <;> simp [Worker.weight]
  | taking =>
    simp only [Worker.turn, Option.some.injEq, Prod.mk.injEq] at turned
    obtain ⟨rfl, rfl⟩ := turned
    split
    · next found =>
      obtain ⟨inside, -⟩ := List.getElem?_eq_some_iff.mp found
      simp only [Worker.weight]
      omega
    · simp only [Worker.weight]
      omega
  | generating index job =>
    cases turned
    simp [Worker.weight]
  | flushing x =>
    simp only [Worker.turn, Option.some.injEq, Prod.mk.injEq] at turned
    obtain ⟨rfl, rfl⟩ := turned
    split <;> simp [Worker.weight]
  | aborting x =>
    simp only [Worker.turn, Option.some.injEq, Prod.mk.injEq] at turned
    obtain ⟨rfl, rfl⟩ := turned
    simp [Worker.weight]
  | storing x =>
    simp only [Worker.turn, Option.some.injEq, Prod.mk.injEq] at turned
    obtain ⟨rfl, rfl⟩ := turned
    simp [Worker.weight]

theorem remaining_decreases (stepped : p.step r sink w = some q) :
    q.remaining r < p.remaining r := by
  obtain ⟨worker, next, others, turned, before, after, -⟩ := step_cases stepped
  have less := turn_decreases turned
  simp only [remaining, (before.map _).sum_nat, (after.map _).sum_nat, List.map_cons,
    List.sum_cons]
  omega

/-- No order of steps goes on forever. -/
theorem terminates (r : Run) (sink : Sink (StateM σ)) :
    WellFounded fun q p : Pool σ => ∃ w, p.step r sink w = some q :=
  Subrelation.wf (fun ⟨_, stepped⟩ => remaining_decreases stepped) (measure (remaining r)).wf

/-- As long as a worker has not stopped it can do a step. -/
theorem exists_step (r : Run) (sink : Sink (StateM σ)) (going : p.isDone = false) :
    ∃ w q, p.step r sink w = some q := by
  obtain ⟨worker, member, notStopped⟩ := List.all_eq_false.mp going
  obtain ⟨w, found⟩ := List.getElem?_of_mem member
  have turns : ∃ turned, worker.turn r sink p.shared = some turned := by
    cases worker with
    | stopped => simp [Worker.isStopped] at notStopped
    | _ => exact ⟨_, rfl⟩
  obtain ⟨⟨next, shared⟩, turned⟩ := turns
  exact ⟨w, ⟨shared, p.workers.set w next⟩, by simp [step, found, turned]⟩

/-- Some order of steps stops all workers. -/
theorem exists_done (r : Run) (sink : Sink (StateM σ)) (p : Pool σ) :
    ∃ q, Reaches r sink p q ∧ q.isDone = true := by
  suffices ∀ q, Reaches r sink p q → ∃ q', Reaches r sink p q' ∧ q'.isDone = true from
    this p .here
  intro q
  induction q using (terminates r sink).induction with
  | _ q ih =>
    intro reached
    cases going : q.isDone with
    | true => exact ⟨q, reached, going⟩
    | false =>
      obtain ⟨w, next, stepped⟩ := exists_step r sink going
      exact ih next ⟨w, stepped⟩ (reached.next stepped)

/-! ### Runs of a pool -/

/-- What workers share is explained after any steps. -/
theorem explained_of_reaches {count : Nat}
    (reached : Reaches r sink (.start count r.jobs.length s) p) :
    p.workers.length = count ∧ ∃ generated flushed stored,
      Shared.Explained r sink s p.workers p.shared generated flushed stored := by
  induction reached with
  | here => exact ⟨List.length_replicate, [], [], [], .start r sink s count⟩
  | next _ stepped ih =>
    obtain ⟨size, generated, flushed, stored, known⟩ := ih
    obtain ⟨worker, next, others, turned, before, after, same⟩ := step_cases stepped
    obtain ⟨generated, flushed, stored, known⟩ := (known.perm before).turn turned
    exact ⟨same.trans size, generated, flushed, stored, known.perm after.symm⟩

theorem eq_stopped_of_isDone {worker : Worker} (done : p.isDone = true)
    (member : worker ∈ p.workers) : worker = .stopped := by
  have stopped := List.all_eq_true.mp done worker member
  cases worker <;> first | rfl | cases stopped

/-- Where all workers have stopped, no job is in between. -/
theorem ending_explained {count : Nat} (any : 0 < count)
    (reached : Reaches r sink (.start count r.jobs.length s) p) (done : p.isDone = true) :
    ∃ generated flushed inOrder records,
      p.ending.Explained r sink s generated flushed inOrder records := by
  obtain ⟨size, generated, flushed, stored, known⟩ := explained_of_reaches reached
  have stopped : p.workers = List.replicate count .stopped :=
    List.eq_replicate_iff.mpr ⟨size, fun _ member => eq_stopped_of_isDone done member⟩
  have exhausted := known.exhausted (by
    rw [stopped]
    exact List.mem_replicate.mpr ⟨by omega, rfl⟩)
  have taken : r.jobs.zipIdx.Perm (generated.map fun x => (x.job, x.index)) := by
    have whole := known.taken
    rw [List.take_of_length_le (by simpa using exhausted)] at whole
    exact List.Perm.symm (by simpa [stopped, List.flatMap_replicate, Worker.taken] using whole)
  have flushes : generated.Perm flushed := by
    simpa [stopped, List.flatMap_replicate, Worker.unflushed] using known.flushes
  have stores : flushed.Perm stored := by
    simpa [stopped, List.flatMap_replicate, Worker.unstored] using known.stores
  -- What was generated is sorted by the places of the jobs.
  obtain ⟨inOrder, listed, same⟩ : ∃ inOrder : List Processed,
      r.jobs.zipIdx = inOrder.map (fun x => (x.job, x.index)) ∧ inOrder.Perm generated :=
    exists_of_perm_map taken
  obtain ⟨records, recorded⟩ := exists_records known.replayed same
  have jobs : inOrder.map (·.job) = r.jobs := by
    calc inOrder.map (·.job) = (inOrder.map fun x => (x.job, x.index)).map Prod.fst := by simp
      _ = r.jobs := by rw [← listed, List.zipIdx_map_fst]
  have indexed : inOrder.map (·.index) = List.range inOrder.length := by
    calc inOrder.map (·.index) = (inOrder.map fun x => (x.job, x.index)).map Prod.snd := by simp
      _ = List.range' 0 (inOrder.map (·.job)).length := by
        rw [← listed, List.zipIdx_map_snd, jobs]
      _ = List.range inOrder.length := by rw [List.length_map, List.range_eq_range']
  refine ⟨generated, flushed, inOrder, records, known.replayed, same.symm,
    flushes.symm.trans same.symm, jobs, recorded, ?_, known.reported⟩
  -- No slot is left empty, so that collecting the slots drops none.
  have slots : p.shared.slots = records.map fun record => some (.ok record) := by
    rw [known.slots, ← jobs, List.length_map,
      Shared.filled_eq ((flushes.trans stores).symm.trans same.symm) indexed]
    calc inOrder.map (fun x => some x.product.1) = (inOrder.map (·.product.1)).map some := by simp
      _ = records.map fun record => some (.ok record) := by rw [recorded]; simp
  have collected : p.records = .ok records := by
    have filled : p.shared.slots.filterMap id = records.map .ok := by
      rw [slots, List.filterMap_map]
      exact congrFun (List.filterMap_eq_map (f := Except.ok)) records
    rw [Pool.records, filled, List.mapM_map]
    calc records.mapM (id ∘ Except.ok) = pure (records.map id) :=
          List.mapM_pure (m := Except EmitError)
      _ = .ok records := by rw [List.map_id]; rfl
  rw [ending, collected]
  rfl

end Pool

/-! ### Runs in turn -/

namespace Run

theorem processAll_spec (r : Run) (sink : Sink (StateM σ)) (jobs : List Job)
    (reported : Diagnostics) (s : σ) :
    ∃ (inOrder : List Processed) (records : List DeclarationRecord) (s' : σ),
      ((inOrder.map (·.job)).mapM (r.process sink)).run s = (inOrder.map (·.product), s') ∧
      inOrder.map (·.job) = jobs ∧ inOrder.map (·.product.1) = records.map .ok ∧
      (r.processAll sink jobs reported).run s =
        ((.ok records, reported ++ inOrder.flatMap (·.product.2.entries)), s') := by
  induction jobs generalizing reported s with
  | nil => exact ⟨[], [], s, rfl, rfl, rfl, by simp [processAll]; rfl⟩
  | cons j jobs ih =>
    obtain ⟨said, s₁, -, ran⟩ := r.process_ok sink j s
    obtain ⟨inOrder, records, s₂, replayed, same, recorded, others⟩ :=
      ih (reported ++ (r.reportsFor j said).entries) s₁
    refine ⟨⟨0, j, .ok (r.recordFor j said), r.reportsFor j said⟩ :: inOrder,
      r.recordFor j said :: records, s₂, ?_, ?_, ?_, ?_⟩
    · exact run_mapM_cons ran replayed
    · rw [List.map_cons, same]
    · rw [List.map_cons, List.map_cons, recorded]
    · rw [processAll, run_bind_of_run ran]
      simp only [DiagnosticBuffer.flush_snd]
      rw [run_bind_of_run others, List.flatMap_cons, ← List.append_assoc]
      rfl

theorem inTurn_explained (r : Run) (sink : Sink (StateM σ)) (s : σ) :
    ∃ inOrder records, (r.inTurn sink s).Explained r sink s inOrder inOrder inOrder records := by
  obtain ⟨inOrder, records, s', replayed, jobs, recorded, ran⟩ := r.processAll_spec sink r.jobs [] s
  have ended : r.inTurn sink s = ⟨.ok ⟨records⟩, inOrder.flatMap (·.product.2.entries), s'⟩ := by
    rw [inTurn, ran]
    rfl
  rw [ended]
  exact ⟨inOrder, records, replayed, .refl _, .refl _, jobs, recorded, rfl, rfl⟩

/-- What is given to the caller of a run that takes the declarations in turn. -/
theorem run_toSink (r : Run) (sink : Sink (StateM σ)) (s : σ) :
    (r.toSink sink).run.run s =
      ((·, (r.inTurn sink s).reported) <$> (r.inTurn sink s).result,
        (r.inTurn sink s).sinkState) := by
  obtain ⟨⟨records, reported⟩, s', ran⟩ : ∃ ended s',
      (r.processAll sink r.jobs []).run s = (ended, s') := ⟨_, _, rfl⟩
  rw [toSink, ExceptT.run_mk, run_bind_of_run ran, inTurn, ran]
  cases records <;> rfl

theorem exists_ends (r : Run) (sink : Sink (StateM σ)) (s : σ) : ∃ e, r.Ends sink s e := by
  by_cases alone : r.workerCount = 1
  · exact ⟨_, .inTurn alone⟩
  · obtain ⟨p, reached, done⟩ :=
      Pool.exists_done r sink (.start r.workerCount r.jobs.length s)
    exact ⟨_, .together alone reached done⟩

/-- Every run ends with a record for each of its jobs. -/
theorem explained_of_ends {e : Ending σ} (ended : r.Ends sink s e) :
    ∃ generated flushed inOrder records,
      e.Explained r sink s generated flushed inOrder records := by
  cases ended with
  | inTurn =>
    obtain ⟨inOrder, records, known⟩ := r.inTurn_explained sink s
    exact ⟨inOrder, inOrder, inOrder, records, known⟩
  | together _ reached done =>
    exact Pool.ending_explained (Nat.le_max_left ..) reached done

end Run

end Companion

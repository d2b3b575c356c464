import Companion.Generate.Run

/-! Workers that share the jobs of a run.

A worker takes the next index, generates that declaration, hands its diagnostics over in one go and
stores the record under the index. Each of these is one step, and the steps of different workers
come in any order.
-/

set_option autoImplicit false

namespace Companion

/-- A job that has been generated, at its place among the jobs, with what it gave. -/
structure Processed where
  index : Nat
  job : Job
  product : Run.Product

/-- What a worker does next. -/
inductive Worker where
  /-- Look whether the run has been given up. -/
  | looking
  | taking
  | generating (index : Nat) (job : Job)
  | flushing (x : Processed)
  /-- Give the run up because of an error. -/
  | aborting (x : Processed)
  | storing (x : Processed)
  | stopped

/-- What workers share. -/
structure Shared (σ : Type) where
  /-- The index that is taken next. -/
  next : Nat
  isAborted : Bool
  slots : List (Option (Except EmitError DeclarationRecord))
  reported : Diagnostics
  sinkState : σ

/-- Workers that share the jobs of a run. -/
structure Pool (σ : Type) where
  shared : Shared σ
  workers : List Worker

/-- How a run ends. -/
structure Ending (σ : Type) where
  result : Except EmitError Report
  reported : Diagnostics
  sinkState : σ

variable {σ : Type}

namespace Worker

def isStopped : Worker → Bool
  | stopped => true
  | _ => false

/-- What becomes of a worker by its next step, and of what it shares. -/
def turn (r : Run) (sink : Sink (StateM σ)) (shared : Shared σ) :
    Worker → Option (Worker × Shared σ)
  | looking => some (if shared.isAborted then stopped else taking, shared)
  | taking =>
    let next := match r.jobs[shared.next]? with
      | some job => generating shared.next job
      | none => stopped
    some (next, { shared with next := shared.next + 1 })
  | generating index job =>
    let (product, sinkState) := (r.process sink job).run shared.sinkState
    some (flushing ⟨index, job, product⟩, { shared with sinkState })
  | flushing x =>
    let next := match x.product.1 with
      | .ok _ => storing x
      | .error _ => aborting x
    some (next, { shared with reported := (x.product.2.flush shared.reported).2 })
  | aborting x => some (storing x, { shared with isAborted := true })
  | storing x =>
    some (looking, { shared with slots := shared.slots.set x.index (some x.product.1) })
  | stopped => none

end Worker

namespace Pool

def start (workers jobs : Nat) (s : σ) : Pool σ :=
  ⟨⟨0, false, List.replicate jobs none, [], s⟩, List.replicate workers .looking⟩

/-- The next step of a worker, unless it has stopped. -/
def step (r : Run) (sink : Sink (StateM σ)) (p : Pool σ) (w : Nat) : Option (Pool σ) := do
  let worker ← p.workers[w]?
  let (worker, shared) ← worker.turn r sink p.shared
  return ⟨shared, p.workers.set w worker⟩

/-- Pools that come of one another by steps of any workers. -/
inductive Reaches (r : Run) (sink : Sink (StateM σ)) (p : Pool σ) : Pool σ → Prop where
  | here : Reaches r sink p p
  | next {q q' : Pool σ} {w : Nat} : Reaches r sink p q → q.step r sink w = some q' →
      Reaches r sink p q'

def isDone (p : Pool σ) : Bool := p.workers.all Worker.isStopped

/-- The records in the slots that were filled, or the first error in them. -/
def records (p : Pool σ) : Except EmitError (List DeclarationRecord) :=
  (p.shared.slots.filterMap id).mapM id

def ending (p : Pool σ) : Ending σ :=
  ⟨Report.mk <$> p.records, p.shared.reported, p.shared.sinkState⟩

end Pool

namespace Run

/-- How a run ends that takes the declarations in turn. -/
def inTurn (r : Run) (sink : Sink (StateM σ)) (s : σ) : Ending σ :=
  let ((records, reported), s) := (r.processAll sink r.jobs []).run s
  ⟨Report.mk <$> records, reported, s⟩

/-- The number of workers: as many as are configured, but no more than there are jobs. -/
def workerCount (r : Run) : Nat := max 1 (min r.config.jobs (max 1 r.jobs.length))

/-- How a run can end: in turn with one worker, and with more in any order of their steps. -/
inductive Ends (r : Run) (sink : Sink (StateM σ)) (s : σ) : Ending σ → Prop where
  | inTurn : r.workerCount = 1 → Ends r sink s (r.inTurn sink s)
  | together {p : Pool σ} : r.workerCount ≠ 1 →
      Pool.Reaches r sink (.start r.workerCount r.jobs.length s) p →
      p.isDone = true → Ends r sink s p.ending

end Run

end Companion

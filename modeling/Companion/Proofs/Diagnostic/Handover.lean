import Companion.Diagnostic.Buffer
import Mathlib.Data.List.Basic
import Mathlib.Data.List.Nodup
import Mathlib.Data.List.Range
import Mathlib.Logic.Function.Basic

/-! Buffers that are filled side by side and handed over to diagnostics that all of them share.

Every action is done in one go, a hand-over included, and the actions of different owners come in any
order. Two reports may say the same, so what becomes of a report is said of its place in the history
of all actions.
-/

set_option autoImplicit false

namespace Companion

/-- What the owner of a buffer does. -/
inductive DiagnosticBuffer.Action where
  | push (d : Diagnostic)
  /-- A declaration error. -/
  | fail (d : Diagnostic)
  | markFailed
  | flush
  deriving DecidableEq

namespace DiagnosticBuffer.Action

def diagnostic? : Action → Option Diagnostic
  | push d => some d
  | fail d => some d
  | markFailed => none
  | flush => none

def isFailure : Action → Bool
  | push _ => false
  | fail _ => true
  | markFailed => true
  | flush => false

/-- What becomes of the buffer and of the shared diagnostics. -/
def apply (b : DiagnosticBuffer) (shared : Diagnostics) :
    Action → DiagnosticBuffer × Diagnostics
  | push d => (b.push d, shared)
  | fail d => (b.fail d, shared)
  | markFailed => (b.markFailed, shared)
  | flush => b.flush shared

variable {b : DiagnosticBuffer} {shared : Diagnostics} {a : Action}

theorem entries_apply :
    (a.apply b shared).1.entries = if a = flush then [] else b.entries ++ a.diagnostic?.toList := by
  cases a <;> simp [apply, diagnostic?, DiagnosticBuffer.markFailed, DiagnosticBuffer.flush]

theorem failed_apply : (a.apply b shared).1.failed = (b.failed || a.isFailure) := by
  cases a <;> simp [apply, isFailure, DiagnosticBuffer.markFailed, DiagnosticBuffer.flush]

theorem shared_apply :
    (a.apply b shared).2 = shared ++ if a = flush then b.entries else [] := by
  cases a <;> simp [apply]

end DiagnosticBuffer.Action

/-- What is done to one of many buffers, or to the diagnostics that they share. -/
inductive Reporting.Action (ι : Type) where
  | own (owner : ι) (a : DiagnosticBuffer.Action)
  | report (d : Diagnostic)
  deriving DecidableEq

/-- A buffer for each owner, and the diagnostics that they share. -/
structure Reporting (ι : Type) where
  buffers : ι → DiagnosticBuffer
  shared : Diagnostics

section

variable {α : Type} {xs : List α} {x : α} {n m : Nat}

theorem mem_drop_of_getElem? (before : n < m) (here : xs[m]? = some x) : x ∈ xs.drop (n + 1) := by
  apply List.mem_of_getElem? (i := m - (n + 1))
  rw [List.getElem?_drop]
  simpa [Nat.add_sub_cancel' (Nat.succ_le_of_lt before)] using here

/-- What comes after a place has a first place there. -/
theorem exists_first_of_mem_drop (later : x ∈ xs.drop (n + 1)) :
    ∃ m, n < m ∧ xs[m]? = some x ∧ x ∉ (xs.take m).drop (n + 1) := by
  obtain ⟨others, rest, same, fresh⟩ := List.eq_append_cons_of_mem later
  refine ⟨n + 1 + others.length, by omega, ?_, ?_⟩
  · rw [← List.getElem?_drop, same, List.getElem?_append_right (Nat.le_refl _)]
    simp
  · rw [List.drop_take, same]
    simpa using fresh

end

namespace Reporting

variable {ι : Type} [DecidableEq ι]

def Action.diagnostic? : Action ι → Option Diagnostic
  | own _ a => a.diagnostic?
  | report d => some d

/-- Whether a diagnostic is put into the buffer of the owner. -/
def Action.isInto (i : ι) : Action ι → Bool
  | own j a => j = i && a.diagnostic?.isSome
  | report _ => false

theorem Action.exists_of_isInto {i : ι} (a : Action ι) (into : a.isInto i = true) :
    ∃ d, a.diagnostic? = some d := by
  cases a with
  | own j a => exact Option.isSome_iff_exists.mp (by simp_all [isInto, diagnostic?])
  | report d => simp [isInto] at into

def start : Reporting ι := ⟨fun _ => .empty, []⟩

def act (r : Reporting ι) : Action ι → Reporting ι
  | .own i a =>
    let (b, shared) := a.apply (r.buffers i) r.shared
    ⟨Function.update r.buffers i b, shared⟩
  | .report d => { r with shared := r.shared ++ [d] }

/-- What is there after all actions of a history. -/
def run (history : List (Action ι)) : Reporting ι := history.foldl act start

/-! ### Places in a history -/

section

variable (history : List (Action ι)) (i : ι) (n : Nat)

def diagnosticAt? : Option Diagnostic := history[n]?.bind Action.diagnostic?

/-- Whether a diagnostic is put into the owner's buffer at a place. -/
def IsInto : Prop := history[n]?.any (·.isInto i) = true

/-- Whether the diagnostic of a place is in the owner's buffer: it was put there, and no hand-over
has come after it. -/
def IsWaiting : Prop := IsInto history i n ∧ .own i .flush ∉ history.drop (n + 1)

/-- Whether the diagnostic of a place is shared: it was reported past all buffers, or put into one
that was handed over later. -/
def IsShared : Prop :=
  (∃ d, history[n]? = some (.report d)) ∨
    ∃ i, IsInto history i n ∧ .own i .flush ∈ history.drop (n + 1)

instance : Decidable (IsInto history i n) := inferInstanceAs (Decidable (_ = true))

instance : Decidable (IsWaiting history i n) := inferInstanceAs (Decidable (_ ∧ _))

/-- The places whose diagnostics the owner's buffer holds, in order. -/
def waiting : List Nat := (List.range history.length).filter fun n => IsWaiting history i n

/-- The places whose diagnostics an action shares that comes after the history. -/
def handedOver : Action ι → List Nat
  | .own i a => if a = .flush then waiting history i else []
  | .report _ => [history.length]

/-- The places whose diagnostics the action at a place shares. -/
def sharedAt (m : Nat) : List Nat := history[m]?.elim [] (handedOver (history.take m))

/-- The places whose diagnostics are shared, in the order in which they came to be. -/
def arrivals : List Nat := (List.range history.length).flatMap (sharedAt history)

end

variable {history : List (Action ι)} {i j : ι} {n m : Nat} {a : Action ι}

theorem IsInto.exists_action (into : IsInto history i n) :
    ∃ a, history[n]? = some (.own i a) := by
  obtain ⟨a, here, isInto⟩ := (Option.any_eq_true _ _).mp into
  cases a with
  | own j a =>
    simp only [Action.isInto, Bool.and_eq_true, decide_eq_true_eq] at isInto
    exact ⟨a, isInto.1 ▸ here⟩
  | report d => simp [Action.isInto] at isInto

theorem IsInto.lt_length (into : IsInto history i n) : n < history.length := by
  obtain ⟨a, here⟩ := into.exists_action
  exact (List.getElem?_eq_some_iff.mp here).1

theorem IsInto.owner_eq (into : IsInto history i n) (other : IsInto history j n) : i = j := by
  obtain ⟨a, here⟩ := into.exists_action
  obtain ⟨b, there⟩ := other.exists_action
  rw [here] at there
  cases there
  rfl

theorem mem_waiting_iff : n ∈ waiting history i ↔ IsWaiting history i n := by
  simp only [waiting, List.mem_filter, List.mem_range, decide_eq_true_eq, and_iff_right_iff_imp]
  exact fun waits => waits.1.lt_length

theorem waiting_sorted : (waiting history i).Pairwise (· < ·) :=
  List.pairwise_lt_range.filter _

theorem mem_handedOver_iff : n ∈ handedOver history a ↔
    (n = history.length ∧ ∃ d, a = .report d) ∨ ∃ i, a = .own i .flush ∧ IsWaiting history i n := by
  cases a with
  | report d => simp [handedOver]
  | own i b =>
    by_cases flushed : b = .flush
    · simp [handedOver, flushed, mem_waiting_iff]
    · simp [handedOver, flushed]

theorem mem_sharedAt_iff : n ∈ sharedAt history m ↔
    (n = m ∧ ∃ d, history[m]? = some (.report d)) ∨
      ∃ i, history[m]? = some (.own i .flush) ∧ IsWaiting (history.take m) i n := by
  cases here : history[m]? with
  | none => simp [sharedAt, here]
  | some a =>
    have inside : m < history.length := (List.getElem?_eq_some_iff.mp here).1
    simp [sharedAt, here, mem_handedOver_iff, Nat.min_eq_left inside.le]

/-- What waits in the buffer up to some place was put there before. -/
theorem IsInto.of_take (into : IsInto (history.take m) i n) : IsInto history i n ∧ n < m := by
  have before : n < m := by
    have inside := into.lt_length
    rw [List.length_take] at inside
    omega
  rw [IsInto, List.getElem?_take_of_lt before] at into
  exact ⟨into, before⟩

theorem mem_arrivals_iff : n ∈ arrivals history ↔ IsShared history n := by
  simp only [arrivals, List.mem_flatMap, List.mem_range, mem_sharedAt_iff]
  constructor
  · rintro ⟨m, inside, ⟨rfl, report⟩ | ⟨i, here, waits⟩⟩
    · exact .inl report
    · obtain ⟨into, before⟩ := waits.1.of_take
      exact .inr ⟨i, into, mem_drop_of_getElem? before here⟩
  · rintro (⟨d, here⟩ | ⟨i, into, later⟩)
    · exact ⟨n, (List.getElem?_eq_some_iff.mp here).1, .inl ⟨rfl, d, here⟩⟩
    · -- Of all hand-overs after the place it is the first one that shares what was put there.
      obtain ⟨m, before, here, fresh⟩ := exists_first_of_mem_drop later
      refine ⟨m, (List.getElem?_eq_some_iff.mp here).1, .inr ⟨i, here, ?_, fresh⟩⟩
      rwa [IsInto, List.getElem?_take_of_lt before]

theorem lt_length_of_mem_waiting (member : n ∈ waiting history i) : n < history.length :=
  (mem_waiting_iff.mp member).1.lt_length

theorem lt_length_of_mem_arrivals (member : n ∈ arrivals history) : n < history.length := by
  rcases mem_arrivals_iff.mp member with ⟨d, here⟩ | ⟨i, into, -⟩
  · exact (List.getElem?_eq_some_iff.mp here).1
  · exact into.lt_length

/-! ### One more action -/

theorem run_concat : run (history ++ [a]) = (run history).act a := by
  simp [run]

theorem isInto_concat (inside : n < history.length) :
    IsInto (history ++ [a]) i n ↔ IsInto history i n := by
  rw [IsInto, IsInto, List.getElem?_append_left inside]

theorem isWaiting_concat (inside : n < history.length) :
    IsWaiting (history ++ [a]) i n ↔ IsWaiting history i n ∧ a ≠ .own i .flush := by
  rw [IsWaiting, IsWaiting, isInto_concat inside, List.drop_append_of_le_length inside]
  simp [and_assoc, eq_comm]

theorem isWaiting_last : IsWaiting (history ++ [a]) i history.length ↔ a.isInto i = true := by
  simp [IsWaiting, IsInto]

/-- The step of a buffer's places: a hand-over empties it, and what is put into it comes last. -/
theorem waiting_concat : waiting (history ++ [a]) i =
    if a = .own i .flush then []
    else waiting history i ++ if a.isInto i then [history.length] else [] := by
  have earlier : (List.range history.length).filter (fun n => IsWaiting (history ++ [a]) i n) =
      if a = .own i .flush then [] else waiting history i := by
    by_cases flushed : a = .own i .flush
    · rw [if_pos flushed, List.filter_eq_nil_iff]
      intro n inside
      simp [isWaiting_concat (List.mem_range.mp inside), flushed]
    · rw [if_neg flushed, waiting]
      apply List.filter_congr
      intro n inside
      simp [isWaiting_concat (List.mem_range.mp inside), flushed]
  rw [waiting, List.length_append, List.length_singleton, List.range_succ, List.filter_append,
    earlier]
  by_cases flushed : a = .own i .flush
  · subst flushed
    simp [isWaiting_last, Action.isInto, DiagnosticBuffer.Action.diagnostic?]
  · by_cases into : a.isInto i = true <;> simp [isWaiting_last, flushed, into]

theorem arrivals_concat :
    arrivals (history ++ [a]) = arrivals history ++ handedOver history a := by
  rw [arrivals, List.length_append, List.length_singleton, List.range_succ, List.flatMap_append]
  congr 1
  · apply List.flatMap_congr
    intro m inside
    have before : m < history.length := List.mem_range.mp inside
    rw [sharedAt, sharedAt, List.getElem?_append_left before,
      List.take_append_of_le_length before.le]
  · simp [sharedAt]

omit [DecidableEq ι] in
theorem map_diagnosticAt?_concat {places : List Nat} (inside : ∀ n ∈ places, n < history.length) :
    places.map (diagnosticAt? (history ++ [a])) = places.map (diagnosticAt? history) := by
  apply List.map_congr_left
  intro n member
  rw [diagnosticAt?, diagnosticAt?, List.getElem?_append_left (inside n member)]

omit [DecidableEq ι] in
theorem diagnosticAt?_last : diagnosticAt? (history ++ [a]) history.length = a.diagnostic? := by
  simp [diagnosticAt?]

theorem entries_act {r : Reporting ι} : ((r.act a).buffers i).entries =
    if a = .own i .flush then []
    else (r.buffers i).entries ++ if a.isInto i then a.diagnostic?.toList else [] := by
  cases a with
  | report d => simp [act, Action.isInto]
  | own j b =>
    by_cases same : j = i
    · subst same
      cases known : b.diagnostic? <;>
        simp [act, DiagnosticBuffer.Action.entries_apply, Action.isInto, Action.diagnostic?, known]
    · simp [act, Function.update_of_ne (Ne.symm same), Action.isInto, same]

theorem failed_act {r : Reporting ι} : ((r.act a).buffers i).failed = true ↔
    (r.buffers i).failed = true ∨ ∃ b, a = .own i b ∧ b.isFailure = true := by
  cases a with
  | report d => simp [act]
  | own j b =>
    by_cases same : j = i
    · subst same
      simp [act, DiagnosticBuffer.Action.failed_apply]
    · simp [act, Function.update_of_ne (Ne.symm same), same]

/-- What the buffers hold, and what is shared, is told by places. -/
structure IsTold (history : List (Action ι)) (r : Reporting ι) : Prop where
  entries : ∀ i, (r.buffers i).entries.map some = (waiting history i).map (diagnosticAt? history)
  shared : r.shared.map some = (arrivals history).map (diagnosticAt? history)
  failed : ∀ i, (r.buffers i).failed = true ↔ ∃ b, .own i b ∈ history ∧ b.isFailure = true

theorem isTold_start : IsTold ([] : List (Action ι)) start :=
  ⟨fun _ => rfl, rfl, fun _ => by simp [start]⟩

theorem IsTold.act {r : Reporting ι} (told : IsTold history r) (a : Action ι) :
    IsTold (history ++ [a]) (r.act a) where
  entries i := by
    rw [entries_act, waiting_concat]
    by_cases flushed : a = .own i .flush
    · simp [flushed]
    · rw [if_neg flushed, if_neg flushed, List.map_append, List.map_append, told.entries,
        map_diagnosticAt?_concat fun _ => lt_length_of_mem_waiting]
      congr 1
      by_cases into : a.isInto i = true
      · obtain ⟨d, given⟩ := a.exists_of_isInto into
        simp [into, diagnosticAt?_last, given]
      · simp [into]
  shared := by
    rw [arrivals_concat, List.map_append,
      map_diagnosticAt?_concat fun _ => lt_length_of_mem_arrivals, ← told.shared]
    cases a with
    | report d => simp [Reporting.act, handedOver, diagnosticAt?_last, Action.diagnostic?]
    | own i b =>
      by_cases flushed : b = .flush
      · simp [Reporting.act, DiagnosticBuffer.Action.shared_apply, handedOver, flushed,
          told.entries, map_diagnosticAt?_concat fun _ => lt_length_of_mem_waiting]
      · simp [Reporting.act, DiagnosticBuffer.Action.shared_apply, handedOver, flushed]
  failed i := by
    rw [failed_act, told.failed, ← exists_or]
    apply exists_congr
    intro b
    rw [List.mem_append, List.mem_singleton, or_and_right, eq_comm (a := a)]

theorem isTold_run (history : List (Action ι)) : IsTold history (run history) := by
  induction history using List.reverseRecOn with
  | nil => exact isTold_start
  | append_singleton history a ih =>
    rw [run_concat]
    exact ih.act a

/-! ### The order of what is shared -/

/-- Two places whose diagnostics came to be shared in this order. -/
def InOrder (history : List (Action ι)) (n m : Nat) : Prop :=
  n ≠ m ∧ ∀ i, IsInto history i n → IsInto history i m → n < m

theorem le_of_mem_sharedAt (member : n ∈ sharedAt history m) : n ≤ m := by
  rcases mem_sharedAt_iff.mp member with ⟨rfl, -⟩ | ⟨i, -, waits⟩
  · exact Nat.le_refl n
  · exact (waits.1.of_take).2.le

theorem not_isInto_of_report {d : Diagnostic} (here : history[n]? = some (.report d)) :
    ¬IsInto history i n := by
  simp [IsInto, here, Action.isInto]

theorem not_isInto_of_flush (here : history[n]? = some (.own j .flush)) : ¬IsInto history i n := by
  simp [IsInto, here, Action.isInto, DiagnosticBuffer.Action.diagnostic?]

/-- Nothing that was in a buffer when it was handed over is in it later. -/
theorem not_isWaiting_of_flush {m' : Nat} (handed : history[m]? = some (.own i .flush))
    (earlier : n < m) (later : m < m') : ¬IsWaiting (history.take m') i n := by
  intro waits
  apply waits.2
  apply mem_drop_of_getElem? earlier
  rwa [List.getElem?_take_of_lt later]

theorem inOrder_of_lt (before : n < m) : InOrder history n m := ⟨before.ne, fun _ _ _ => before⟩

/-- What is shared at one place comes before what is shared at a later one. -/
theorem inOrder_sharedAt {m m' n' : Nat} (later : m < m') (first : n ∈ sharedAt history m)
    (second : n' ∈ sharedAt history m') : InOrder history n n' := by
  by_cases after : m < n'
  · exact inOrder_of_lt (Nat.lt_of_le_of_lt (le_of_mem_sharedAt first) after)
  · rcases mem_sharedAt_iff.mp second with ⟨rfl, -⟩ | ⟨i', -, waits'⟩
    · exact absurd later after
    · have into' : IsInto history i' n' := waits'.1.of_take.1
      rcases mem_sharedAt_iff.mp first with ⟨rfl, d, report⟩ | ⟨i, handed, waits⟩
      · have apart (j : ι) : ¬IsInto history j n := not_isInto_of_report report
        exact ⟨fun same => apart i' (same ▸ into'), fun j into _ => absurd into (apart j)⟩
      · have into : IsInto history i n := waits.1.of_take.1
        -- The buffer that was handed over first no longer had the second diagnostic in it.
        have differ : i ≠ i' := by
          rintro rfl
          have apart : n' ≠ m := fun same => not_isInto_of_flush handed (same ▸ into')
          exact not_isWaiting_of_flush handed (by omega) later waits'
        refine ⟨?_, fun j here there => ?_⟩
        · rintro rfl
          exact differ (into.owner_eq into')
        · exact absurd ((into.owner_eq here).trans (there.owner_eq into')) differ

theorem sharedAt_sorted : (sharedAt history m).Pairwise (· < ·) := by
  cases here : history[m]? with
  | none => simp [sharedAt, here]
  | some a =>
    cases a with
    | report d => simp [sharedAt, here, handedOver]
    | own i b =>
      by_cases flushed : b = .flush
      · simp [sharedAt, here, handedOver, flushed, waiting_sorted]
      · simp [sharedAt, here, handedOver, flushed]

theorem arrivals_inOrder : (arrivals history).Pairwise (InOrder history) := by
  rw [arrivals, List.pairwise_flatMap]
  constructor
  · intro m _
    exact sharedAt_sorted.imp inOrder_of_lt
  · apply List.pairwise_lt_range.imp
    intro m m' later n first n' second
    exact inOrder_sharedAt later first second

/-- What a hand-over shares stands together. -/
theorem arrivals_together (handed : history[m]? = some (.own i .flush)) :
    ∃ before after, arrivals history = before ++ waiting (history.take m) i ++ after := by
  have inside : m ∈ List.range history.length :=
    List.mem_range.mpr (List.getElem?_eq_some_iff.mp handed).1
  obtain ⟨earlier, later, same⟩ := List.append_of_mem inside
  refine ⟨earlier.flatMap (sharedAt history), later.flatMap (sharedAt history), ?_⟩
  rw [arrivals, same, List.flatMap_append, List.flatMap_cons, List.append_assoc]
  simp [sharedAt, handed, handedOver]

/-! ### Any number of owners, in any order -/

/-- An account of what became of all that was reported, where the places that were shared are given
in the order in which they came to be. -/
structure Accounts (history : List (Action ι)) (arrived : List Nat) (r : Reporting ι) : Prop where
  /-- What is shared are the diagnostics of these places. -/
  shared : r.shared.map some = arrived.map (diagnosticAt? history)
  once : arrived.Nodup
  /-- They are those that were reported past all buffers, or handed over after they were put into
  a buffer. -/
  complete : ∀ n, n ∈ arrived ↔ IsShared history n
  /-- Of one buffer, what was put into it first is shared first. -/
  ordered : arrived.Pairwise fun n m => ∀ i, IsInto history i n → IsInto history i m → n < m
  /-- What a hand-over found in its buffer stands together. -/
  together : ∀ i m, history[m]? = some (.own i .flush) → ∃ before block after : List Nat,
    arrived = before ++ block ++ after ∧ ∀ n, n ∈ block ↔ IsWaiting (history.take m) i n
  /-- A buffer holds what was put into it since it was handed over last, in order. -/
  buffered : ∀ i, ∃ places : List Nat,
    (r.buffers i).entries.map some = places.map (diagnosticAt? history) ∧
      places.Pairwise (· < ·) ∧ ∀ n, n ∈ places ↔ IsWaiting history i n
  emptied : ∀ i earlier, history = earlier ++ [.own i .flush] → (r.buffers i).entries = []
  /-- A hand-over takes no mark of failure away. -/
  failed : ∀ i, (r.buffers i).failed = true ↔ ∃ b, .own i b ∈ history ∧ b.isFailure = true

/-- Whatever the owners do, and in whatever order: what they report is shared once it is handed over,
once each, and in the order in which each of them reported it. -/
theorem run_accounted (history : List (Action ι)) :
    ∃ arrived, Accounts history arrived (run history) := by
  have told := isTold_run history
  refine ⟨arrivals history, ?_⟩
  exact {
    shared := told.shared
    once := arrivals_inOrder.imp And.left
    complete := fun n => mem_arrivals_iff
    ordered := arrivals_inOrder.imp And.right
    together := by
      intro i m handed
      obtain ⟨before, after, same⟩ := arrivals_together handed
      exact ⟨before, _, after, same, fun n => mem_waiting_iff⟩
    buffered := fun i => ⟨_, told.entries i, waiting_sorted, fun n => mem_waiting_iff⟩
    emptied := by
      rintro i earlier rfl
      rw [run_concat, entries_act, if_pos rfl]
    failed := told.failed }

end Reporting

end Companion

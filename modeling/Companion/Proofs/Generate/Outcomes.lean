import Companion.Proofs.Declaration.Canonical
import Companion.Proofs.Generate.Endings

/-! A declaration is generated as a whole or not at all, as far as this is up to the run.

A sink that keeps what it was handed tells what a declaration that failed has left behind.
-/

set_option autoImplicit false

namespace Companion

open Run

/-- What became of one declaration of a run. -/
structure Concluded where
  job : Job
  record : DeclarationRecord
  buffer : DiagnosticBuffer
  /-- What a sink was handed of it. -/
  attempts : List Attempt

/-- Nothing of a declaration that failed was handed over, and every companion of any other one
was. -/
structure Concluded.AllOrNothing (x : Concluded) : Prop where
  failed_iff : x.record.outcome = .failed ↔ x.buffer.failed = true
  error_of_failed : x.record.outcome = .failed → ∃ d ∈ x.buffer.entries, d.isError = true
  nothing : x.record.outcome = .failed → x.record.artifacts = [] ∧ x.attempts = []
  inOrder : (x.record.artifacts.map (·.kind)).Sublist [.subclass, .builder, .converter]
  everything : x.record.outcome ≠ .failed →
    ∀ kind, kind ∈ x.record.artifacts.map (·.kind) ↔ x.job.declaration.Gets kind
  attempted : x.attempts.map (fun a => (a.file, a.isAccepted)) =
    x.record.artifacts.map fun a => (a.fileName, a.isWritten)
  generated_iff : x.record.outcome = .generated ↔
    x.record.outcome ≠ .failed ∧ ∀ a ∈ x.record.artifacts, a.isWritten = true
  incomplete_iff : x.record.outcome = .incomplete ↔
    x.record.outcome ≠ .failed ∧ ∃ a ∈ x.record.artifacts, a.isWritten = false

variable {σ : Type} {r : Run} {sink : Sink (StateM σ)}

/-- What a sink was handed with units that got the answers. -/
def attemptsOf (units : List Artifact) (said : List (Except String Unit)) : List Attempt :=
  List.zipWith (fun a answer => ⟨a.fileName, a.state.content, answer.isOk⟩) units said

/-- A sink that keeps what it was handed says the same. -/
theorem answers_recorded (sink : Sink (StateM σ)) (units : List Artifact) (s : σ)
    (log : List Attempt) :
    ∃ said s', said.length = units.length ∧ (answers sink units).run s = (said, s') ∧
      (answers sink.recorded units).run (s, log) =
        (said, s', log ++ attemptsOf units said) := by
  induction units generalizing s log with
  | nil => exact ⟨[], s, rfl, rfl, by simp [answers, attemptsOf]; rfl⟩
  | cons a units ih =>
    obtain ⟨answer, s₁, first⟩ : ∃ answer s₁,
        (sink a.fileName a.state.content).run s = (answer, s₁) := ⟨_, _, rfl⟩
    have kept : (sink.recorded a.fileName a.state.content).run (s, log) =
        (answer, s₁, log ++ [⟨a.fileName, a.state.content, answer.isOk⟩]) := by
      change (sink.recorded a.fileName a.state.content (s, log)) = _
      rw [Sink.recorded, first]
    obtain ⟨said, s₂, size, ran, ran'⟩ :=
      ih s₁ (log ++ [⟨a.fileName, a.state.content, answer.isOk⟩])
    refine ⟨answer :: said, s₂, by simp [size], run_answers_cons first ran, ?_⟩
    rw [run_answers_cons kept ran', attemptsOf, attemptsOf, List.zipWith_cons_cons,
      List.append_assoc]
    rfl

theorem kinds_recordsOf {units : List Artifact} {said : List (Except String Unit)}
    (size : said.length = units.length) :
    (recordsOf units said).map (·.kind) = units.map (·.kind) := by
  induction units generalizing said with
  | nil => simp [recordsOf]
  | cons a units ih =>
    cases said with
    | nil => cases size
    | cons answer said => exact congrArg (a.kind :: ·) (ih (by simpa using size))

/-- Every unit has one record, which tells the answer to the one time it was handed over. -/
theorem attemptsOf_eq (units : List Artifact) (said : List (Except String Unit)) :
    (attemptsOf units said).map (fun a => (a.file, a.isAccepted)) =
      (recordsOf units said).map fun a => (a.fileName, a.isWritten) := by
  rw [attemptsOf, recordsOf, List.map_zipWith, List.map_zipWith]
  rfl

/-- The outcome of a declaration that did not fail tells whether all of its units were written. -/
theorem outcome_settle (j : Job) (records : List ArtifactRecord) :
    (settle j records).outcome ≠ .failed ∧
      ((settle j records).outcome = .generated ↔ ∀ a ∈ records, a.isWritten = true) ∧
      ((settle j records).outcome = .incomplete ↔ ∃ a ∈ records, a.isWritten = false) := by
  cases written : records.all (·.isWritten) with
  | true =>
    have outcome : (settle j records).outcome = .generated := by simp [settle, written, record]
    simpa [outcome] using written
  | false =>
    have outcome : (settle j records).outcome = .incomplete := by simp [settle, written, record]
    simpa [outcome] using written

/-! ### What is known of each declaration -/

/-- What becomes of a declaration whose units get the answers. -/
def Run.concluded (r : Run) (j : Job) (said : List (Except String Unit)) : Concluded :=
  ⟨j, r.recordFor j said, r.reportsFor j said, attemptsOf (r.unitsOf j) said⟩

/-- Whatever the sink says to the units of a declaration, something is known of it. -/
def Run.Settles (r : Run) (P : Concluded → Prop) : Prop :=
  ∀ j said, said.length = (r.unitsOf j).length → P (r.concluded j said)

/-- Whatever state the sink is in, something is known of a declaration that is processed. -/
def Run.Processes (r : Run) (sink : Sink (StateM σ)) (P : Concluded → Prop) : Prop :=
  ∀ j s log, ∃ x s', P x ∧ x.job = j ∧
    (r.process sink.recorded j).run (s, log) = ((.ok x.record, x.buffer), s', log ++ x.attempts)

/-- An end that reports on all declarations in order. What the sink was handed and what was reported
is put together of what became of each of them, of which something is known. -/
def Ending.Concludes (P : Concluded → Prop) (jobs : List Job) (e : Ending (σ × List Attempt)) :
    Prop :=
  ∃ (records : List DeclarationRecord) (xs flushed : List Concluded),
    e.result = .ok ⟨records⟩ ∧ records.length = jobs.length ∧
    (xs.map fun x => (x.job, x.record)).Perm (jobs.zip records) ∧
    flushed.Perm xs ∧ e.reported = flushed.flatMap (·.buffer.entries) ∧
    e.sinkState.2 = xs.flatMap (·.attempts) ∧ ∀ x ∈ xs, P x

variable {P : Concluded → Prop}

/-- The step: one declaration is processed. -/
theorem Run.process_recorded (r : Run) (sink : Sink (StateM σ)) (j : Job) (s : σ)
    (log : List Attempt) :
    ∃ said s', said.length = (r.unitsOf j).length ∧
      (answers sink (r.unitsOf j)).run s = (said, s') ∧
      (r.process sink.recorded j).run (s, log) =
        ((.ok (r.concluded j said).record, (r.concluded j said).buffer), s',
          log ++ (r.concluded j said).attempts) := by
  obtain ⟨said, s', size, answered, ran⟩ := answers_recorded sink (r.unitsOf j) s log
  exact ⟨said, s', size, answered, by rw [process_eq, StateT.run_map, ran]; rfl⟩

theorem Run.Settles.processes (settles : r.Settles P) (sink : Sink (StateM σ)) :
    r.Processes sink P := by
  intro j s log
  obtain ⟨said, s', size, -, ran⟩ := r.process_recorded sink j s log
  exact ⟨r.concluded j said, s', settles j said size, rfl, ran⟩

/-- Every declaration is all or nothing. -/
theorem settles_allOrNothing (r : Run) : r.Settles Concluded.AllOrNothing := by
  intro j said size
  unfold Run.concluded
  cases fate : (r.prepared j).isFailed with
  | true =>
    have units := unitsOf_of_failed fate
    have recorded : r.recordFor j said = record j .failed [] := by rw [recordFor, if_pos fate]
    obtain ⟨d, member, isError⟩ := (r.prepared j).error_of_failed fate
    simp only [recorded, units, attemptsOf]
    exact {
      failed_iff := by simp [record, fate]
      error_of_failed := fun _ => ⟨d, by simp [reportsFor, member], isError⟩
      nothing := fun _ => ⟨rfl, rfl⟩
      inOrder := List.nil_sublist _
      everything := fun other => absurd rfl other
      attempted := rfl
      generated_iff := by simp [record]
      incomplete_iff := by simp [record] }
  | false =>
    have recorded : r.recordFor j said = settle j (recordsOf (r.unitsOf j) said) := by
      rw [recordFor, if_neg (by simp [fate])]
    have kinds : (recordsOf (r.unitsOf j) said).map (·.kind) = j.declaration.artifacts :=
      (kinds_recordsOf size).trans (kinds_unitsOf fate)
    obtain ⟨fine, generated, incomplete⟩ := outcome_settle j (recordsOf (r.unitsOf j) said)
    simp only [recorded]
    exact {
      failed_iff := by simp [fine, fate]
      error_of_failed := fun failed => absurd failed fine
      nothing := fun failed => absurd failed fine
      inOrder := kinds ▸ j.declaration.artifacts_sublist
      everything := fun _ kind => by
        change kind ∈ (recordsOf (r.unitsOf j) said).map (·.kind) ↔ _
        rw [kinds, Declaration.mem_artifacts]
      attempted := attemptsOf_eq ..
      generated_iff := generated.trans (and_iff_right fine).symm
      incomplete_iff := incomplete.trans (and_iff_right fine).symm }

/-- The run: each of the declarations is processed, and nothing else is handed over. -/
theorem Run.Processes.replay (processes : r.Processes sink P) {s : σ} {log : List Attempt}
    {generated : List Processed} {s' : σ × List Attempt}
    (replayed : ((generated.map (·.job)).mapM (r.process sink.recorded)).run (s, log) =
      (generated.map (·.product), s')) :
    ∃ xs : List Concluded, (∀ x ∈ xs, P x) ∧
      xs.map (fun x => (x.job, (.ok x.record, x.buffer))) =
        generated.map (fun x => (x.job, x.product)) ∧
      s'.2 = log ++ xs.flatMap (·.attempts) := by
  induction generated generalizing s log with
  | nil =>
    cases replayed
    exact ⟨[], by simp, rfl, by simp⟩
  | cons y generated ih =>
    obtain ⟨x, s₁, whole, job, ran⟩ := processes y.job s log
    obtain ⟨products, s₂, others⟩ : ∃ products s₂,
        ((generated.map (·.job)).mapM (r.process sink.recorded)).run (s₁, log ++ x.attempts) =
          (products, s₂) := ⟨_, _, rfl⟩
    obtain ⟨same, rfl⟩ := Prod.mk.inj ((run_mapM_cons ran others).symm.trans replayed)
    obtain ⟨product, rfl⟩ := List.cons.inj same
    obtain ⟨xs, allWhole, results, attempts⟩ := ih others
    refine ⟨x :: xs, List.forall_mem_cons.mpr ⟨whole, allWhole⟩, ?_, ?_⟩
    · simp only [List.map_cons, results, job, ← product]
    · rw [attempts, List.flatMap_cons, List.append_assoc]

theorem Ending.Explained.concludes_of_processes (processes : r.Processes sink P) {s : σ}
    {e : Ending (σ × List Attempt)} {generated flushed inOrder : List Processed}
    {records : List DeclarationRecord}
    (known : e.Explained r sink.recorded (s, []) generated flushed inOrder records) :
    e.Concludes P r.jobs := by
  obtain ⟨xs, whole, results, attempts⟩ := processes.replay known.replayed
  have size : records.length = r.jobs.length := by
    rw [← known.jobs, ← List.length_map (f := Except.ok), ← known.recorded, List.length_map,
      List.length_map]
  have listed : (xs.map fun x => (x.job, x.record)).Perm (r.jobs.zip records) := by
    -- A run pairs jobs with results, and here each of them is a record.
    have injective : Function.Injective (Prod.map (id : Job → Job)
        (Except.ok : DeclarationRecord → Except EmitError DeclarationRecord)) :=
      Function.injective_id.prodMap fun _ _ => Except.ok.inj
    rw [← List.map_perm_map_iff injective]
    calc List.Perm ((xs.map fun x => (x.job, x.record)).map (Prod.map id .ok))
          (generated.map fun x => (x.job, x.product.1)) := by
          have results := congrArg (List.map fun y => (y.1, y.2.1)) results
          exact .of_eq (by simpa [Function.comp_def] using results)
      List.Perm _ (inOrder.map fun x => (x.job, x.product.1)) := known.sameGenerated.map _
      List.Perm _ ((r.jobs.zip records).map (Prod.map id .ok)) := by
        rw [← List.zip_map', known.jobs, known.recorded, List.zip_map_right]
  obtain ⟨handed, same, handedSame⟩ : ∃ handed : List Concluded,
      flushed.map (fun x => (x.job, x.product)) =
        handed.map (fun x => (x.job, (.ok x.record, x.buffer))) ∧ handed.Perm xs := by
    refine exists_of_perm_map ?_
    rw [results]
    exact (known.sameFlushed.trans known.sameGenerated.symm).map _
  refine ⟨records, xs, handed, known.result, size, listed, handedSame, ?_, attempts, whole⟩
  calc e.reported = (flushed.map fun x => (x.job, x.product)).flatMap (·.2.2.entries) := by
        rw [known.reported, List.flatMap_map]
    _ = handed.flatMap (·.buffer.entries) := by rw [same, List.flatMap_map]

theorem Ending.Explained.concludes (settles : r.Settles P) {s : σ} {e : Ending (σ × List Attempt)}
    {generated flushed inOrder : List Processed} {records : List DeclarationRecord}
    (known : e.Explained r sink.recorded (s, []) generated flushed inOrder records) :
    e.Concludes P r.jobs := known.concludes_of_processes (settles.processes sink)

/-- An end that reports on all declarations in order. What the sink was handed and what was reported
is put together of what became of each of them, which was all or nothing. -/
def Ending.IsAllOrNothing (jobs : List Job) (e : Ending (σ × List Attempt)) : Prop :=
  ∃ (records : List DeclarationRecord) (xs flushed : List Concluded),
    e.result = .ok ⟨records⟩ ∧ records.length = jobs.length ∧
    (xs.map fun x => (x.job, x.record)).Perm (jobs.zip records) ∧
    flushed.Perm xs ∧ e.reported = flushed.flatMap (·.buffer.entries) ∧
    e.sinkState.2 = xs.flatMap (·.attempts) ∧ ∀ x ∈ xs, x.AllOrNothing

theorem Ending.Explained.isAllOrNothing {s : σ} {e : Ending (σ × List Attempt)}
    {generated flushed inOrder : List Processed} {records : List DeclarationRecord}
    (known : e.Explained r sink.recorded (s, []) generated flushed inOrder records) :
    e.IsAllOrNothing r.jobs := known.concludes (settles_allOrNothing r)

/-- Whatever the configuration, the declarations, the sink and the order in which workers take
turns, a run ends, and every declaration of it is all or nothing. -/
theorem run_allOrNothing (layout : String → String) (config : Config)
    (sources : List DeclarationSource) (sink : Sink (StateM σ)) (s : σ) :
    (∃ e, (ofSourcesWith layout config sources).Ends sink.recorded (s, []) e) ∧
      ∀ e, (ofSourcesWith layout config sources).Ends sink.recorded (s, []) e →
        e.IsAllOrNothing (Job.ofSources sources) := by
  refine ⟨exists_ends .., fun e ended => ?_⟩
  obtain ⟨generated, flushed, inOrder, records, known⟩ := explained_of_ends ended
  exact known.isAllOrNothing

theorem allOrNothing_point :
    let sources : List DeclarationSource :=
      [⟨none, default, [⟨"Point", none, [], [.builder], [], [], none⟩]⟩]
    ((ofSources .standard sources).inTurn
      (MemorySink.sink fun _ => some "full").recorded (.empty, [])).IsAllOrNothing
        (Job.ofSources sources) :=
  (run_allOrNothing id .standard _ _ _).2 _ (.inTurn rfl)

end Companion

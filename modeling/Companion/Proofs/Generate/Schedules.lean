import Companion.Proofs.Emit.Storage
import Companion.Proofs.Generate.Endings

/-! Runs into a sink that decides by the names of files.

What a declaration becomes there does not depend on what was handed over before, so that the order
in which workers take turns shows in the order of what they report and write alone.
-/

set_option autoImplicit false

namespace Companion

variable {σ : Type} {r : Run} {sink : Sink (StateM σ)} {verdict : String → Except String Unit}
  {text? : σ → String → Option String} {s : σ}

namespace Run

/-- What a sink says to the units of a declaration. -/
def saidTo (r : Run) (verdict : String → Except String Unit) (j : Job) :
    List (Except String Unit) :=
  (r.unitsOf j).map fun a => verdict a.fileName

def productFor (r : Run) (verdict : String → Except String Unit) (j : Job) : Product :=
  (.ok (r.recordFor j (r.saidTo verdict j)), r.reportsFor j (r.saidTo verdict j))

/-- The texts of the units that are accepted, with the names of their files. -/
def accepted (verdict : String → Except String Unit) (units : List Artifact) :
    List (String × String) :=
  (units.filter fun a => (verdict a.fileName).isOk).map fun a => (a.fileName, a.state.content)

def writesFor (r : Run) (verdict : String → Except String Unit) (j : Job) :
    List (String × String) :=
  accepted verdict (r.unitsOf j)

theorem accepted_cons (verdict : String → Except String Unit) (a : Artifact)
    (units : List Artifact) :
    accepted verdict (a :: units) =
      if (verdict a.fileName).isOk then (a.fileName, a.state.content) :: accepted verdict units
      else accepted verdict units := by
  rw [accepted, List.filter_cons]
  split <;> rfl

/-- The sink then holds the last text that was accepted under a name. -/
theorem answers_byName (named : sink.ByName verdict text?) (units : List Artifact) (s : σ) :
    ∃ s', (answers sink units).run s = (units.map fun a => verdict a.fileName, s') ∧
      ∀ file, text? s' file = ((accepted verdict units).reverse.lookup file).or (text? s file) := by
  induction units generalizing s with
  | nil => exact ⟨s, rfl, fun _ => rfl⟩
  | cons a units ih =>
    obtain ⟨s₁, first⟩ : ∃ s₁, (sink a.fileName a.state.content).run s = (verdict a.fileName, s₁) :=
      ⟨_, Prod.ext (named.answer ..) rfl⟩
    obtain ⟨s₂, ran, holds⟩ := ih s₁
    refine ⟨s₂, run_answers_cons first ran, fun file => ?_⟩
    have holds₁ := named.holds a.fileName a.state.content s file
    rw [first] at holds₁
    rw [holds, holds₁, accepted_cons]
    cases (verdict a.fileName).isOk with
    | true =>
      simp only [and_true, if_true, List.reverse_cons, List.lookup_append, lookup_cons_eq,
        Option.or_assoc]
      split <;> rfl
    | false => simp only [Bool.false_eq_true, and_false, if_false]

theorem process_byName (named : sink.ByName verdict text?) (j : Job) (s : σ) :
    ∃ s', (r.process sink j).run s = (r.productFor verdict j, s') ∧
      ∀ file, text? s' file =
        ((r.writesFor verdict j).reverse.lookup file).or (text? s file) := by
  obtain ⟨s', ran, holds⟩ := answers_byName named (r.unitsOf j) s
  exact ⟨s', by rw [process_eq, StateT.run_map, ran]; rfl, holds⟩

theorem processes_byName (named : sink.ByName verdict text?) (jobs : List Job) (s : σ) :
    ∃ s', (jobs.mapM (r.process sink)).run s = (jobs.map (r.productFor verdict), s') ∧
      ∀ file, text? s' file =
        ((jobs.flatMap (r.writesFor verdict)).reverse.lookup file).or (text? s file) := by
  induction jobs generalizing s with
  | nil => exact ⟨s, rfl, fun _ => rfl⟩
  | cons j jobs ih =>
    obtain ⟨s₁, first, holds₁⟩ := process_byName (r := r) named j s
    obtain ⟨s₂, ran, holds⟩ := ih s₁
    refine ⟨s₂, run_mapM_cons first ran, fun file => ?_⟩
    rw [holds, holds₁, List.flatMap_cons, List.reverse_append, List.lookup_append, Option.or_assoc]

/-- The files of a declaration's record are those that were accepted. -/
theorem writtenFiles_recordFor (r : Run) (verdict : String → Except String Unit) (j : Job) :
    (r.recordFor j (r.saidTo verdict j)).writtenFiles = (r.writesFor verdict j).map Prod.fst := by
  have files (units : List Artifact) :
      ((recordsOf units (units.map fun a => verdict a.fileName)).filter (·.isWritten)).map
        (·.fileName) = (accepted verdict units).map Prod.fst := by
    induction units with
    | nil => rfl
    | cons a units ih =>
      rw [accepted_cons]
      cases accepts : (verdict a.fileName).isOk <;>
        simpa [recordsOf, recordOf, accepts] using ih
  unfold recordFor
  split
  · next failed => simp [unitsOf_of_failed failed, writesFor, accepted, record,
      DeclarationRecord.writtenFiles]
  · exact files (r.unitsOf j)

theorem writtenFiles_report (r : Run) (verdict : String → Except String Unit) (jobs : List Job) :
    (Report.mk (jobs.map fun j => r.recordFor j (r.saidTo verdict j))).writtenFiles =
      (jobs.flatMap (r.writesFor verdict)).map Prod.fst := by
  rw [Report.writtenFiles, List.flatMap_map, List.map_flatMap]
  exact congrArg (List.flatMap · jobs) (funext (r.writtenFiles_recordFor verdict))

/-- What is written under a name once or never does not depend on the order of jobs. -/
theorem lookup_writes_eq_of_perm {jobs others : List Job} (same : jobs.Perm others) {file : String}
    (once : ((others.flatMap (r.writesFor verdict)).map Prod.fst).count file ≤ 1) :
    (jobs.flatMap (r.writesFor verdict)).reverse.lookup file =
      (others.flatMap (r.writesFor verdict)).reverse.lookup file := by
  -- The text that was accepted last is the first one in reverse.
  have reversed := (List.reverse_perm _).trans
    ((same.flatMap_right (r.writesFor verdict)).trans (List.reverse_perm _).symm)
  refine lookup_eq_of_perm reversed ?_
  rwa [(reversed.map _).count_eq, ((List.reverse_perm _).map _).count_eq]

theorem declaration_recordFor (r : Run) (j : Job) (said : List (Except String Unit)) :
    (r.recordFor j said).declaration = j.declaration.name := by
  unfold recordFor
  split <;> rfl

/-- What each declaration reports when they are taken in turn. -/
def blocksInTurn (r : Run) (sink : Sink (StateM σ)) (s : σ) : List Diagnostics :=
  ((r.jobs.mapM (r.process sink)).run s).1.map (·.2.entries)

theorem blocksInTurn_byName (named : sink.ByName verdict text?) (s : σ) :
    r.blocksInTurn sink s = r.jobs.map fun j => (r.productFor verdict j).2.entries := by
  obtain ⟨s', ran, -⟩ := processes_byName (r := r) named r.jobs s
  rw [blocksInTurn, ran, List.map_map]
  rfl

end Run

open Run

/-- An end in terms of the orders in which jobs were generated and handed over. -/
theorem Ending.Explained.byName {e : Ending σ} {generated flushed inOrder : List Processed}
    {records : List DeclarationRecord}
    (known : e.Explained r sink s generated flushed inOrder records)
    (named : sink.ByName verdict text?) :
    e.result = .ok ⟨r.jobs.map fun j => r.recordFor j (r.saidTo verdict j)⟩ ∧
      e.reported = ((flushed.map (·.job)).map fun j => (r.productFor verdict j).2.entries).flatten ∧
      ∀ file, text? e.sinkState file =
        (((generated.map (·.job)).flatMap (r.writesFor verdict)).reverse.lookup file).or
          (text? s file) := by
  obtain ⟨s', ran, holds⟩ := processes_byName (r := r) named (generated.map (·.job)) s
  obtain ⟨products, rfl⟩ := Prod.mk.inj (known.replayed.symm.trans ran)
  rw [List.map_map] at products
  have product : ∀ x ∈ generated, x.product = r.productFor verdict x.job :=
    List.map_inj_left.mp products
  refine ⟨?_, ?_, holds⟩
  · have listed : records.map (.ok : _ → Except EmitError _) =
        (r.jobs.map fun j => r.recordFor j (r.saidTo verdict j)).map .ok := by
      rw [← known.recorded, ← known.jobs, List.map_map, List.map_map]
      exact List.map_congr_left fun x member =>
        congrArg Prod.fst (product x (known.sameGenerated.mem_iff.mpr member))
    rw [known.result, List.map_injective_iff.mpr (fun _ _ => Except.ok.inj) listed]
  · rw [known.reported, List.map_map, List.flatMap_def]
    refine congrArg List.flatten (List.map_congr_left fun x member => ?_)
    have before := known.sameGenerated.mem_iff.mpr (known.sameFlushed.mem_iff.mp member)
    exact congrArg (·.2.entries) (product x before)

/-- Whatever the number of workers and the order of their steps, they stop, and then the report is
that of a run in turn, the diagnostics are those of the declarations in some order, and every file
that was written for one unit at most has the same text. -/
theorem together_inTurn (r : Run) (sink : Sink (StateM σ))
    (verdict : String → Except String Unit) (text? : σ → String → Option String)
    (named : sink.ByName verdict text?) (count : Nat) (any : 0 < count) (s : σ) :
    Acc (fun q p => ∃ w, p.step r sink w = some q) (Pool.start count r.jobs.length s) ∧
      ∀ p, Pool.Reaches r sink (.start count r.jobs.length s) p →
        (p.isDone = false → ∃ w q, p.step r sink w = some q) ∧
        (p.isDone = true → ∃ report : Report,
          p.ending.result = .ok report ∧ (r.inTurn sink s).result = .ok report ∧
          report.declarations.map (·.declaration) = r.jobs.map (·.declaration.name) ∧
          (r.inTurn sink s).reported = (r.blocksInTurn sink s).flatten ∧
          (∃ blocks : List Diagnostics, blocks.Perm (r.blocksInTurn sink s) ∧
            p.ending.reported = blocks.flatten) ∧
          ∀ file, report.writtenFiles.count file ≤ 1 →
            text? p.ending.sinkState file = text? (r.inTurn sink s).sinkState file) := by
  refine ⟨(Pool.terminates r sink).apply _, fun p reached => ⟨Pool.exists_step r sink, fun done => ?_⟩⟩
  obtain ⟨generated, flushed, inOrder, records, known⟩ := Pool.ending_explained any reached done
  obtain ⟨turns, records', knownTurns⟩ := r.inTurn_explained sink s
  obtain ⟨result, reported, holds⟩ := known.byName named
  obtain ⟨result', reported', holds'⟩ := knownTurns.byName named
  have sameGenerated : (generated.map (·.job)).Perm r.jobs :=
    known.jobs ▸ known.sameGenerated.map _
  have sameFlushed : (flushed.map (·.job)).Perm r.jobs := known.jobs ▸ known.sameFlushed.map _
  rw [knownTurns.jobs] at reported' holds'
  refine ⟨_, result, result', ?_, ?_, ?_, fun file once => ?_⟩
  · rw [List.map_map]
    exact List.map_congr_left fun j _ => r.declaration_recordFor j _
  · rw [reported', blocksInTurn_byName named]
  · refine ⟨_, ?_, reported⟩
    rw [blocksInTurn_byName named]
    exact sameFlushed.map _
  · rw [writtenFiles_report] at once
    rw [holds, holds', lookup_writes_eq_of_perm sameGenerated once]

theorem together_inTurn_point :
    let r := ofSources .standard
      [⟨none, default, [⟨"Point", none, [], [.builder], [], [], none⟩]⟩]
    let sink := MemorySink.sink fun _ => none
    0 < 2 ∧ ∃ p, Pool.Reaches r sink (.start 2 1 .empty) p ∧ p.isDone = true ∧
      p.ending.result = (r.inTurn sink .empty).result := by
  intro r sink
  obtain ⟨p, reached, done⟩ := Pool.exists_done r sink (.start 2 1 .empty)
  obtain ⟨report, result, result', -⟩ := ((together_inTurn _ _ _ _
    (MemorySink.byName fun _ => none) 2 (by decide) .empty).2 p reached).2 done
  exact ⟨by decide, p, reached, done, result.trans result'.symm⟩

end Companion

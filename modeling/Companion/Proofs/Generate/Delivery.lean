import Companion.Proofs.Declaration.Canonical
import Companion.Proofs.Generate.Emission
import Companion.Proofs.Model.Build

/-! Processing a declaration, in terms of the answers of a sink.

All units are prepared before the first is handed over. What becomes of the declaration follows from
them and from what the sink says to each.
-/

set_option autoImplicit false

/-! ### What is handed to a sink of a declaration: all of its units, or nothing -/

namespace Companion

namespace Run

/-- A unit of a declaration: what its generator gave, finished, under the names of the
configuration. -/
structure IsUnit (r : Run) (j : Job) (g : Generation) (a : Artifact) : Prop where
  declaration : a.declaration = j.declaration.name
  outputName : a.outputName = r.config.naming.outputName j.declaration.name a.kind
  fileName : a.fileName = r.config.naming.fileName j.declaration.name a.kind
  filled : ∃ code text, g.unit a.kind = .ok code ∧
    (r.finishText j g a.kind code).value = some text ∧ a.state = .populated text

variable {r : Run} {j : Job} {g : Generation} {kind : ArtifactKind}

/-- A declaration with a model is the first of its name and on no cycle of converters. -/
theorem ofDeclaration_of_model {m : Model} (modelled : (r.model j).value = some m) :
    j.isDuplicate = false ∧ (Model.ofDeclaration r.batch j.source j.declaration).value = some m ∧
      (r.checkCycle j m).value = some () := by
  unfold model at modelled
  split at modelled
  · cases modelled
  · next first =>
    simp only [Checked.value_andThen, Checked.value_map, Option.bind_eq_some_iff,
      Option.map_eq_some_iff] at modelled
    obtain ⟨_, built, _, passed, rfl⟩ := modelled
    exact ⟨by simpa using first, built, passed⟩

/-- So is one that reaches the generators. -/
theorem model_of_generation (known : (r.generation j).value = some g) :
    j.isDuplicate = false ∧
      (Model.ofDeclaration r.batch j.source j.declaration).value = some g.model ∧
      (r.checkCycle j g.model).value = some () ∧ g.naming = r.config.naming := by
  simp only [generation, Checked.value_andThen, Checked.value_map, Option.bind_eq_some_iff,
    Option.map_eq_some_iff] at known
  obtain ⟨m, modelled, contracts, -, rfl⟩ := known
  obtain ⟨first, built, passed⟩ := ofDeclaration_of_model modelled
  exact ⟨first, built, passed, rfl⟩

/-- A unit does not end the run, whether it can be generated or not. -/
theorem artifact_spec (known : (r.generation j).value = some g) (kind : ArtifactKind) :
    ∃ x, r.artifact j g kind = .ok x ∧ ∀ a, x.value = some a → a.kind = kind ∧ r.IsUnit j g a := by
  obtain ⟨-, built, -, naming⟩ := model_of_generation known
  have name := (Model.isOf_of_ofDeclaration built).name
  cases generated : g.unit kind with
  | ok code =>
    refine ⟨_, by simp only [artifact, generated]; rfl, fun a filled => ?_⟩
    simp only [Checked.value_map, Option.map_eq_some_iff] at filled
    obtain ⟨text, finished, rfl⟩ := filled
    exact ⟨rfl, name, by rw [← naming, ← name]; rfl, by rw [← name], code, text, generated,
      finished, rfl⟩
  | error e =>
    obtain ⟨reason, rfl⟩ := Generation.unit_error generated
    refine ⟨_, by simp only [artifact, generated]; rfl, fun a filled => ?_⟩
    cases filled

/-- Units of the kinds, in their order, if there are any. -/
theorem units_spec (known : (r.generation j).value = some g) (kinds : List ArtifactKind) :
    ∃ xs, kinds.mapM (r.artifact j g) = .ok xs ∧ ∀ units, (Checked.all xs).value = some units →
      units.map (·.kind) = kinds ∧ ∀ a ∈ units, r.IsUnit j g a := by
  induction kinds with
  | nil =>
    refine ⟨[], rfl, fun units all => ?_⟩
    cases all
    exact ⟨rfl, nofun⟩
  | cons kind kinds ih =>
    obtain ⟨x, generated, unit⟩ := artifact_spec known kind
    obtain ⟨xs, others, rest⟩ := ih
    refine ⟨x :: xs, by rw [List.mapM_cons, generated, others]; rfl, fun units all => ?_⟩
    simp only [Checked.all, Checked.value_seq, Checked.value_map, Option.bind_eq_some_iff,
      Option.map_eq_some_iff] at all
    obtain ⟨_, ⟨a, first, rfl⟩, others, following, rfl⟩ := all
    obtain ⟨same, isUnit⟩ := unit a first
    obtain ⟨kinds', areUnits⟩ := rest others following
    exact ⟨by rw [List.map_cons, same, kinds'], List.forall_mem_cons.mpr ⟨isUnit, areUnits⟩⟩

/-- No declaration ends a run before the sink is reached. What there is for the sink are all units
of the declaration. -/
theorem prepare_spec (r : Run) (j : Job) :
    ∃ prepared, r.prepare j = .ok prepared ∧ ∀ units, prepared.value = some units →
      units.map (·.kind) = j.declaration.artifacts ∧
        ∃ g, (r.generation j).value = some g ∧ ∀ a ∈ units, r.IsUnit j g a := by
  cases known : (r.generation j).value with
  | none =>
    refine ⟨_, by simp only [prepare, known, Option.elim]; rfl, fun units value => ?_⟩
    simp [known] at value
  | some g =>
    obtain ⟨-, built, -⟩ := model_of_generation known
    obtain ⟨xs, generated, spec⟩ := units_spec known g.model.artifacts
    refine ⟨_, by simp only [prepare, known, Option.elim, units, generated]; rfl,
      fun units value => ?_⟩
    simp only [Checked.value_andThen, known] at value
    obtain ⟨kinds, areUnits⟩ := spec units value
    exact ⟨(Model.isOf_of_ofDeclaration built).artifacts ▸ kinds, g, rfl, areUnits⟩

end Run

end Companion

/-! ### In terms of the answers of a sink -/

namespace Companion.Run

variable {m : Type → Type} [Monad m]

/-- The units of a declaration, or none if it failed. -/
def prepared (r : Run) (j : Job) : Checked (List Artifact) := (r.prepare j).toOption.getD default

def unitsOf (r : Run) (j : Job) : List Artifact := (r.prepared j).value.getD []

/-- What a sink says to units that are handed to it one after the other. -/
def answers (sink : Sink m) (units : List Artifact) : m (List (Except String Unit)) :=
  units.mapM fun a => sink a.fileName a.state.content

def recordsOf (units : List Artifact) (answers : List (Except String Unit)) :
    List ArtifactRecord :=
  List.zipWith (fun a answer => recordOf a answer.isOk) units answers

/-- The reports on units that were refused. They do not fail the declaration. -/
def refusals (l : Location) : List Artifact → List (Except String Unit) → DiagnosticBuffer
  | a :: units, .error reason :: answers =>
    (DiagnosticBuffer.empty.push (refusal l a (.sink a.fileName reason))).append
      (refusals l units answers)
  | _ :: units, .ok () :: answers => refusals l units answers
  | _, _ => .empty

/-- The record of a declaration whose units got the answers. -/
def recordFor (r : Run) (j : Job) (answers : List (Except String Unit)) : DeclarationRecord :=
  if (r.prepared j).isFailed then record j .failed []
  else settle j (recordsOf (r.unitsOf j) answers)

def reportsFor (r : Run) (j : Job) (answers : List (Except String Unit)) : DiagnosticBuffer :=
  (r.prepared j).buffer.append (refusals j.location (r.unitsOf j) answers)

theorem prepare_eq (r : Run) (j : Job) : r.prepare j = .ok (r.prepared j) := by
  obtain ⟨x, known, -⟩ := r.prepare_spec j
  rw [prepared, known]
  rfl

theorem unitsOf_spec {r : Run} {j : Job} {a : Artifact} (member : a ∈ r.unitsOf j) :
    a.kind ∈ j.declaration.artifacts ∧ ∃ g, (r.generation j).value = some g ∧ r.IsUnit j g a := by
  obtain ⟨x, known, spec⟩ := r.prepare_spec j
  cases value : x.value with
  | none => simp [unitsOf, prepared, known, Except.toOption, value] at member
  | some units =>
    have same : r.unitsOf j = units := by simp [unitsOf, prepared, known, Except.toOption, value]
    rw [same] at member
    obtain ⟨kinds, g, generated, areUnits⟩ := spec units value
    exact ⟨kinds ▸ List.mem_map_of_mem member, g, generated, areUnits a member⟩

/-- All companions of a declaration that did not fail are there, in order. -/
theorem kinds_unitsOf {r : Run} {j : Job} (fine : (r.prepared j).isFailed = false) :
    (r.unitsOf j).map (·.kind) = j.declaration.artifacts := by
  obtain ⟨x, known, spec⟩ := r.prepare_spec j
  have same : r.prepared j = x := by rw [prepared, known]; rfl
  rw [Checked.isFailed, Checked.failed_eq, same] at fine
  obtain ⟨units, value⟩ := Option.isSome_iff_exists.mp (by simpa using fine)
  rw [unitsOf, same, value]
  exact (spec units value).1

theorem unitsOf_of_failed {r : Run} {j : Job} (failed : (r.prepared j).isFailed = true) :
    r.unitsOf j = [] := by
  rw [Checked.isFailed, Checked.failed_eq, Option.isNone_iff_eq_none] at failed
  rw [unitsOf, failed, Option.getD_none]

theorem nodup_kinds_unitsOf (r : Run) (j : Job) : ((r.unitsOf j).map (·.kind)).Nodup := by
  cases failed : (r.prepared j).isFailed with
  | false =>
    rw [kinds_unitsOf failed]
    exact j.declaration.artifacts_sublist.nodup (by decide)
  | true =>
    rw [unitsOf_of_failed failed]
    exact List.nodup_nil

@[simp] theorem failed_refusals (l : Location) (units : List Artifact)
    (answers : List (Except String Unit)) : (refusals l units answers).failed = false := by
  fun_induction refusals l units answers with
  | case1 a units reason answers ih => simpa using ih
  | case2 a units answers ih => exact ih
  | case3 => rfl

@[simp] theorem failed_reportsFor (r : Run) (j : Job) (answers : List (Except String Unit)) :
    (r.reportsFor j answers).failed = (r.prepared j).isFailed := by
  simp [reportsFor, Checked.isFailed]

variable [LawfulMonad m]

/-- Every filled unit is handed over once, whatever the sink said to those before. -/
theorem deliver_eq (sink : Sink m) (l : Location) {units : List Artifact}
    (populated : ∀ a ∈ units, ∃ text, a.state = .populated text) :
    deliver sink l units =
      (fun said => (.ok (recordsOf units said), refusals l units said)) <$> answers sink units := by
  induction units with
  | nil => simp [deliver, answers, recordsOf, refusals]
  | cons a units ih =>
    obtain ⟨⟨text, filled⟩, others⟩ := List.forall_mem_cons.mp populated
    simp only [deliver, Artifact.write, Artifact.ready, filled, ih others, answers,
      List.mapM_cons, ArtifactState.content, map_eq_pure_bind, bind_assoc]
    refine bind_congr fun said => ?_
    cases said with
    | ok => simp [recordsOf, refusals, Except.isOk, Except.toBool]
    | error reason => simp [recordsOf, refusals, Except.isOk, Except.toBool, EmitError.isFatal]

/-- No declaration ends a run: it gets a record, and its units are handed to the sink, which are
none if it failed. -/
theorem process_eq (r : Run) (sink : Sink m) (j : Job) :
    r.process sink j =
      (fun said => (.ok (r.recordFor j said), r.reportsFor j said)) <$>
        answers sink (r.unitsOf j) := by
  simp only [process, prepare_eq]
  cases value : (r.prepared j).value with
  | none =>
    have failed : (r.prepared j).isFailed = true := by
      rw [Checked.isFailed, Checked.failed_eq, value, Option.isNone_none]
    simp [unitsOf_of_failed failed, recordFor, reportsFor, refusals, answers, failed,
      DiagnosticBuffer.append]
  | some units =>
    have fine : (r.prepared j).isFailed = false := by
      rw [Checked.isFailed, Checked.failed_eq, value, Option.isNone_some]
    have same : r.unitsOf j = units := by rw [unitsOf, value, Option.getD_some]
    simp only
    rw [deliver_eq sink j.location fun a member => by
      obtain ⟨-, g, -, unit⟩ := unitsOf_spec (same.symm ▸ member)
      obtain ⟨-, text, -, -, filled⟩ := unit.filled
      exact ⟨text, filled⟩]
    simp [recordFor, reportsFor, same, fine]

/-- What a record lists are units of the declaration. -/
theorem exists_unit_of_mem_artifacts {r : Run} {j : Job} {said : List (Except String Unit)}
    {a : ArtifactRecord} (member : a ∈ (r.recordFor j said).artifacts) :
    ∃ unit ∈ r.unitsOf j, a.kind = unit.kind := by
  have among (units : List Artifact) (said : List (Except String Unit))
      (member : a ∈ recordsOf units said) : ∃ unit ∈ units, a.kind = unit.kind := by
    rw [recordsOf, ← List.map_uncurry_zip_eq_zipWith] at member
    obtain ⟨⟨unit, answer⟩, listed, rfl⟩ := List.mem_map.mp member
    exact ⟨unit, (List.of_mem_zip listed).1, rfl⟩
  unfold recordFor at member
  split at member
  · cases member
  · exact among _ said member

/-- A sink says something to every unit. -/
theorem length_answers {σ : Type} (sink : Sink (StateM σ)) (units : List Artifact) (s : σ) :
    ((answers sink units).run s).1.length = units.length := by
  induction units generalizing s with
  | nil => rfl
  | cons a units ih =>
    rw [answers, List.mapM_cons, StateT.run_bind]
    exact congrArg (· + 1) (ih _)

theorem process_ok {σ : Type} (r : Run) (sink : Sink (StateM σ)) (j : Job) (s : σ) :
    ∃ said s', said.length = (r.unitsOf j).length ∧
      (r.process sink j).run s = ((.ok (r.recordFor j said), r.reportsFor j said), s') := by
  rw [process_eq, StateT.run_map]
  exact ⟨_, _, length_answers sink (r.unitsOf j) s, rfl⟩

end Companion.Run

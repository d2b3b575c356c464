import Companion.Proofs.Emit.Storage
import Companion.Proofs.Generate.Outcomes
import Companion.Proofs.Model.Visibility

/-! What becomes of a declaration does not depend on how others are implemented, nor on whether they
fail.

Two runs are compared at one declaration. Up to the sink both prepare the same units and the same
reports, since nothing they read differs.
-/

set_option autoImplicit false

namespace Companion

/-- Jobs for one declaration that is found at the same place of the same file. -/
structure Job.IsPlacedAs (a b : Job) : Prop where
  declaration : a.declaration = b.declaration
  path : a.source.path = b.source.path
  location : a.location = b.location
  members : ∀ member, a.source.locateMember a.declaration.name member =
    b.source.locateMember b.declaration.name member
  isDuplicate : a.isDuplicate = b.isDuplicate

/-- Runs in which a declaration sees the same. -/
structure Run.Agrees (q r : Run) : Prop where
  config : q.config = r.config
  layout : q.layout = r.layout
  batch : q.batch.Agrees r.batch
  cycleFrom?_eq : q.graph.cycleFrom? = r.graph.cycleFrom?

namespace Run

variable {q r : Run} {a b : Job}

theorem ofDeclaration_congr (batch : Batch) (placed : a.IsPlacedAs b) :
    Model.ofDeclaration batch a.source a.declaration =
      Model.ofDeclaration batch b.source b.declaration := by
  obtain ⟨source, d, duplicate⟩ := a
  obtain ⟨source', d', duplicate'⟩ := b
  obtain ⟨rfl, -, location, members, -⟩ := placed
  have places : Model.memberLocation source d = Model.memberLocation source' d := by
    funext m
    unfold Model.memberLocation
    split
    · exact members _
    · exact location
  have whole : source.locate d.name = source'.locate d.name := location
  unfold Model.ofDeclaration Model.checkFields Model.checkMethods
  simp only [places, whole, members]

section

variable (agree : q.Agrees r) (placed : a.IsPlacedAs b)

include agree placed

theorem generation_congr : q.generation a = r.generation b := by
  have cycles : q.checkCycle a = r.checkCycle b := by
    funext m
    simp only [checkCycle, agree.cycleFrom?_eq, placed.location]
  have models : q.model a = r.model b := by
    simp only [model, placed.isDuplicate, placed.location, cycles, agree.batch.ofDeclaration_eq,
      ofDeclaration_congr r.batch placed]
    rw [placed.declaration]
  unfold generation
  simp only [models, agree.config, ContractTable.ofModel_congr agree.batch.hierarchy]

theorem artifact_congr (g : Generation) (kind : ArtifactKind) :
    q.artifact a g kind = r.artifact b g kind := by
  have origin : provenance a = provenance b := by
    funext m kind
    simp only [provenance, Job.originName, placed.path]
  have finished : q.finishText a g kind = r.finishText b g kind := by
    funext code
    simp only [finishText, agree.config, agree.layout, origin, placed.location]
  have refused : artifact.notGenerated a = artifact.notGenerated b := by
    funext kind reason
    rw [artifact.notGenerated, artifact.notGenerated, placed.location]
  unfold artifact
  rw [finished, refused, agree.config]

theorem prepare_congr : q.prepare a = r.prepare b := by
  have units : q.units a = r.units b := by
    funext g
    have each : q.artifact a g = r.artifact b g := funext (artifact_congr agree placed g)
    rw [Run.units, Run.units, each]
  rw [prepare, prepare, generation_congr agree placed, units]

theorem prepared_congr : q.prepared a = r.prepared b := by
  rw [prepared, prepared, prepare_congr agree placed]

theorem unitsOf_congr : q.unitsOf a = r.unitsOf b := by
  rw [unitsOf, unitsOf, prepared_congr agree placed]

/-- What is prepared is the same, so that the same becomes of it where sinks say the same. -/
theorem concluded_congr (said : List (Except String Unit)) :
    (q.concluded a said).record = (r.concluded b said).record ∧
      (q.concluded a said).buffer = (r.concluded b said).buffer ∧
      (q.concluded a said).attempts = (r.concluded b said).attempts := by
  have prepared := prepared_congr agree placed
  have units := unitsOf_congr agree placed
  have records : record a = record b := by
    funext outcome artifacts
    rw [record, record, placed.declaration, placed.path]
  have settles : settle a = settle b := by
    funext artifacts
    rw [settle, settle, records]
  refine ⟨?_, ?_, ?_⟩
  · simp only [concluded, recordFor, prepared, units, records, settles]
  · simp only [concluded, reportsFor, prepared, units, placed.location]
  · simp only [concluded, units]

end

/-! ### Runs over sources -/

/-- What others see of the first declaration of a name. -/
def firstView (sources : List DeclarationSource) (name : String) : Option Batch.Entry :=
  ((sources.flatMap (·.declarations)).find? (·.name == name)).map Batch.Entry.ofDeclaration

theorem declarations_mark (seen : List String) (ds : List (DeclarationSource × Declaration)) :
    (Job.mark seen ds).map (·.declaration) = ds.map Prod.snd := by
  induction ds generalizing seen with
  | nil => rfl
  | cons d ds ih => rw [Job.mark, List.map_cons, List.map_cons, ih]

theorem declarations_ofSources (sources : List DeclarationSource) :
    (Job.ofSources sources).map (·.declaration) = sources.flatMap (·.declarations) := by
  rw [Job.ofSources, declarations_mark, List.map_flatMap]
  simp

/-- Runs over sources in which the first declarations of each name look the same. -/
theorem agrees_ofSourcesWith (layout : String → String) (config : Config)
    {sources sources' : List DeclarationSource} (views : firstView sources = firstView sources') :
    (ofSourcesWith layout config sources).Agrees (ofSourcesWith layout config sources') := by
  have known (sources : List DeclarationSource) (name : String) :
      (ofSourcesWith layout config sources).batch.find? name = firstView sources name := by
    rw [firstView, ← declarations_ofSources]
    exact Batch.find?_ofDeclarations ..
  have batch : (ofSourcesWith layout config sources).batch.Agrees
      (ofSourcesWith layout config sources').batch :=
    ⟨rfl, fun name => by rw [known, known, views]⟩
  exact ⟨rfl, rfl, batch, DependencyGraph.cycleFrom?_ofBatch_congr batch⟩

variable {σ : Type}

theorem run_answers_of_verdict {sink : Sink (StateM σ)} {verdict : String → Except String Unit}
    (answers_eq : ∀ file contents s, ((sink file contents).run s).1 = verdict file)
    (units : List Artifact) (s : σ) :
    ((answers sink units).run s).1 = units.map fun a => verdict a.fileName := by
  induction units generalizing s with
  | nil => rfl
  | cons a units ih =>
    obtain ⟨answer, s₁, first⟩ : ∃ answer s₁,
        (sink a.fileName a.state.content).run s = (answer, s₁) := ⟨_, _, rfl⟩
    obtain ⟨said, s₂, others⟩ : ∃ said s₂, (answers sink units).run s₁ = (said, s₂) := ⟨_, _, rfl⟩
    have same := answers_eq a.fileName a.state.content s
    have rest := ih s₁
    rw [first] at same
    rw [others] at rest
    rw [run_answers_cons first others, List.map_cons, ← same, ← rest]

/-- The step: the units of a declaration get the answers that go with their names. -/
theorem processes_of_verdict {sink : Sink (StateM σ)} {verdict : String → Except String Unit}
    (answers_eq : ∀ file contents s, ((sink file contents).run s).1 = verdict file)
    {P : Concluded → Prop}
    (known : ∀ j, P (r.concluded j ((r.unitsOf j).map fun a => verdict a.fileName))) :
    r.Processes sink P := by
  intro j s log
  obtain ⟨said, s', size, answered, ran⟩ := r.process_recorded sink j s log
  have same := run_answers_of_verdict answers_eq (r.unitsOf j) s
  rw [answered] at same
  cases same
  exact ⟨_, s', known j, rfl, ran⟩

end Run

/-- What is known of a declaration in an end: its record, all that is reported on it, and what a sink
was handed of it. -/
def Concluded.Becomes (j : Job) (record : DeclarationRecord) (buffer : DiagnosticBuffer)
    (attempts : List Attempt) (x : Concluded) : Prop :=
  x.job = j → x.record = record ∧ x.buffer = buffer ∧ x.attempts = attempts

variable {σ τ : Type}

/-- Two batches in which the first declarations of each name have the same supertypes, companions
and member types, in whatever order and whatever else they say: a declaration of both becomes the
same in every run over either of them, where sinks accept or refuse by the names of files. -/
theorem run_independent (layout : String → String) (config : Config)
    {sources sources' : List DeclarationSource}
    (views : ∀ name, Run.firstView sources name = Run.firstView sources' name) {a b : Job}
    (placed : a.IsPlacedAs b) {sink : Sink (StateM σ)} {sink' : Sink (StateM τ)}
    {verdict : String → Except String Unit}
    (answers_eq : ∀ file contents s, ((sink file contents).run s).1 = verdict file)
    (answers_eq' : ∀ file contents s, ((sink' file contents).run s).1 = verdict file) :
    ∃ record buffer attempts,
      (∀ s e, (Run.ofSourcesWith layout config sources).Ends sink.recorded (s, []) e →
        e.Concludes (Concluded.Becomes a record buffer attempts) (Job.ofSources sources)) ∧
      ∀ s e, (Run.ofSourcesWith layout config sources').Ends sink'.recorded (s, []) e →
        e.Concludes (Concluded.Becomes b record buffer attempts) (Job.ofSources sources') := by
  have agree := Run.agrees_ofSourcesWith layout config (funext views)
  generalize second : (Run.ofSourcesWith layout config sources').concluded b
    (((Run.ofSourcesWith layout config sources').unitsOf b).map fun u => verdict u.fileName) = y
  refine ⟨y.record, y.buffer, y.attempts, fun s e ended => ?_, fun s e ended => ?_⟩
  · obtain ⟨generated, flushed, inOrder, records, known⟩ := Run.explained_of_ends ended
    refine known.concludes_of_processes (Run.processes_of_verdict answers_eq fun j same => ?_)
    obtain rfl : j = a := same
    rw [Run.unitsOf_congr agree placed, ← second]
    exact Run.concluded_congr agree placed _
  · obtain ⟨generated, flushed, inOrder, records, known⟩ := Run.explained_of_ends ended
    refine known.concludes_of_processes (Run.processes_of_verdict answers_eq' fun j same => ?_)
    obtain rfl : j = b := same
    rw [← second]
    exact ⟨rfl, rfl, rfl⟩

/-- A declaration that holds another, and the other one before it with a method that is no code. -/
theorem independent_line :
    let line : Declaration := ⟨"Line", none, [], [.subclass],
      [⟨none, some "start", "PointSubclass", none, none, [], none⟩], [], none⟩
    let point : Declaration := ⟨"Point", none, ["Shape"], [], [], [], none⟩
    let broken : Declaration := { point with
      methods := [⟨"area", [], none, [], ["logged"], some "("⟩] }
    let lines : DeclarationSource := ⟨some "line.yaml", default, [line]⟩
    let sources := [lines, ⟨some "point.yaml", default, [point]⟩]
    let sources' := [⟨some "broken.yaml", default, [broken]⟩, lines]
    ∃ record buffer attempts,
      ((Run.ofSources .standard sources).inTurn (MemorySink.sink fun _ => none).recorded
        (.empty, [])).Concludes (Concluded.Becomes ⟨lines, line, false⟩ record buffer attempts)
          (Job.ofSources sources) ∧
      ((Run.ofSources .standard sources').inTurn (MemorySink.sink fun _ => none).recorded
        (.empty, [])).Concludes (Concluded.Becomes ⟨lines, line, false⟩ record buffer attempts)
          (Job.ofSources sources') := by
  intro line point broken lines sources sources'
  have views : ∀ name, Run.firstView sources name = Run.firstView sources' name := by
    intro name
    obtain rfl | notLine := eq_or_ne name "Line"
    · rfl
    · obtain rfl | notPoint := eq_or_ne name "Point"
      · rfl
      · simp [Run.firstView, sources, sources', lines, line, point, broken, notLine.symm,
          notPoint.symm]
  have placed : Job.IsPlacedAs ⟨lines, line, false⟩ ⟨lines, line, false⟩ :=
    ⟨rfl, rfl, rfl, fun _ => rfl, rfl⟩
  have answers := (MemorySink.byName fun _ => none).answer
  obtain ⟨record, buffer, attempts, first, second⟩ :=
    run_independent id .standard views placed answers answers
  exact ⟨record, buffer, attempts, first _ _ (.inTurn rfl), second _ _ (.inTurn rfl)⟩

end Companion

import Companion.Code.Grammar
import Companion.Emit.Artifact
import Companion.Files.Path
import Companion.Generate.Builder
import Companion.Generate.Converter
import Companion.Generate.Report
import Companion.Generate.Subclass
import Companion.Model.Batch
import Companion.Model.Build

/-! Runs over all declarations of a batch.

What a declaration becomes depends on the batch but not on what became of others, so a
declaration with an error costs only its own units. Everything but the writing of units is pure.
-/

set_option autoImplicit false

/-! ### The unit of each companion -/

namespace Companion.Generation

def steps (g : Generation) : ArtifactKind → Except InterceptError (List Step)
  | .subclass => return g.subclassSteps (← g.woven)
  | .builder => .ok g.builderSteps
  | .converter => .ok g.converterSteps

def unit (g : Generation) (kind : ArtifactKind) : Except GenerateError String := do
  let steps ← (g.steps kind).mapError .intercept
  (Emitter.unit steps).mapError .emit

end Companion.Generation

/-! ### Jobs and runs -/

namespace Companion

/-- The version that units and metadata carry. -/
def version : String := "0.1.0"

/-- A declaration of a batch. -/
structure Job where
  source : DeclarationSource
  declaration : Declaration
  /-- Whether an earlier declaration has the name. -/
  isDuplicate : Bool
  deriving Inhabited

namespace Job

def mark (seen : List String) : List (DeclarationSource × Declaration) → List Job
  | [] => []
  | (source, d) :: others => ⟨source, d, seen.contains d.name⟩ :: mark (d.name :: seen) others

def ofSources (sources : List DeclarationSource) : List Job :=
  mark [] (sources.flatMap fun s => s.declarations.map fun d => (s, d))

def location (j : Job) : Location := j.source.locate j.declaration.name

/-- The name of the file that units say they come from. -/
def originName (j : Job) : String := (j.source.path.bind Path.fileName?).getD "<inline>"

end Job

/-- Jobs with what they share. -/
structure Run where
  config : Config
  /-- The layout that formatting gives a unit. -/
  layout : String → String
  jobs : List Job
  batch : Batch
  graph : DependencyGraph
  deriving Inhabited

namespace Run

def ofSourcesWith (layout : String → String) (config : Config)
    (sources : List DeclarationSource) : Run :=
  let jobs := Job.ofSources sources
  let batch := Batch.ofDeclarations config.modelOptions (jobs.map (·.declaration))
  ⟨config, layout, jobs, batch, DependencyGraph.ofBatch batch⟩

/-- A run whose units are left as they are generated. -/
def ofSources (config : Config) (sources : List DeclarationSource) : Run :=
  ofSourcesWith id config sources

/-- Refuse a declaration whose converter would need itself. -/
def checkCycle (r : Run) (j : Job) (m : Model) : Checked Unit :=
  if m.generates .converter then
    match r.graph.cycleFrom? m.name with
    | some path => (ModelError.converterCycle path).reportAt j.location
    | none => .ok
  else .ok

def model (r : Run) (j : Job) : Checked Model :=
  if j.isDuplicate then (ModelError.duplicateDeclaration j.declaration.name).reportAt j.location
  else (Model.ofDeclaration r.batch j.source j.declaration).andThen fun m =>
    (fun _ => m) <$> r.checkCycle j m

/-- What the generators read of a declaration. -/
def generation (r : Run) (j : Job) : Checked Generation :=
  (r.model j).andThen fun m =>
    (fun contracts =>
      ⟨m, contracts, r.config.naming, r.config.runtimePath,
        r.config.modelOptions.maxCacheArity⟩) <$>
      ContractTable.ofModel ⟨r.batch.hierarchy, r.config.runtimePath⟩ m

/-- The lines that say where a unit comes from. -/
def provenance (j : Job) (m : Model) (kind : ArtifactKind) : List String := [
  "Generated by declgen " ++ version ++ ". Do not edit.",
  "source: " ++ j.originName,
  "declaration: " ++ m.name ++ " (" ++ kind.name ++ ")",
  "sha256: " ++ m.hash]

/-- The text of a unit as it is written. Code that is none is written all the same. -/
def finishText (r : Run) (j : Job) (g : Generation) (kind : ArtifactKind) (code : String) :
    Checked String :=
  let parsed := Code.checkedUnit? code
  let body := match parsed with
    | some body => if r.config.autoFormat then r.layout body else body
    | none => code
  .noted
    (if r.config.provenance then Code.withHeader (provenance j g.model kind) body else body)
    (if parsed.isSome then [] else
      [⟨.warning, "The generated $ does not parse and is written unformatted: $",
        [g.outputName kind,
          Template.escape ("generated code does not parse: " ++ Text.unexplained)], j.location⟩])

/-- A unit that is ready to be written. -/
def artifact (r : Run) (j : Job) (g : Generation) (kind : ArtifactKind) :
    Except EmitError (Checked Artifact) :=
  match g.unit kind with
  | .ok code =>
    .ok <| (fun text => ⟨kind, g.model.name, g.outputName kind,
      r.config.naming.fileName g.model.name kind, .populated text⟩) <$>
        r.finishText j g kind code
  | .error e =>
    match e with
    | .emit e =>
      if e.isFatal then .error e else .ok (notGenerated j kind e.message)
    | .intercept e => .ok (notGenerated j kind e.message)
where
  notGenerated (j : Job) (kind : ArtifactKind) (reason : String) : Checked Artifact :=
    .failWith j.location "The $ could not be generated: $" [kind.name, reason]

/-- All units of a declaration. -/
def units (r : Run) (j : Job) (g : Generation) : Except EmitError (Checked (List Artifact)) := do
  return Checked.all (← g.model.artifacts.mapM (r.artifact j g))

/-- What is handed to a sink of a declaration: nothing if anything about it is wrong. -/
def prepare (r : Run) (j : Job) : Except EmitError (Checked (List Artifact)) := do
  let g := r.generation j
  let units ← g.value.elim (pure (pure [])) (r.units j)
  return g.andThen fun _ => units

def recordOf (a : Artifact) (isWritten : Bool) : ArtifactRecord :=
  ⟨a.kind, a.outputName, a.fileName, isWritten⟩

/-- The report on a unit that a sink refused. -/
def refusal (l : Location) (a : Artifact) (e : EmitError) : Diagnostic :=
  ⟨.error, "The $ could not be written: $", [a.outputName, Template.escape e.message], l⟩

variable {m : Type → Type} [Monad m]

/-- Hand units to a sink. -/
def deliver (sink : Sink m) (l : Location) :
    List Artifact → m (Except EmitError (List ArtifactRecord) × DiagnosticBuffer)
  | [] => return (.ok [], .empty)
  | a :: others => do
    match (← a.write sink).1 with
    | .ok () =>
      let (records, b) ← deliver sink l others
      return ((recordOf a true :: ·) <$> records, b)
    | .error e =>
      if e.isFatal then return (.error e, .empty)
      let (records, b) ← deliver sink l others
      return ((recordOf a false :: ·) <$> records,
        (DiagnosticBuffer.empty.push (refusal l a e)).append b)

def record (j : Job) (outcome : Outcome) (artifacts : List ArtifactRecord) : DeclarationRecord :=
  ⟨j.declaration.name, j.source.path, j.declaration.hash, outcome, artifacts⟩

/-- What became of a declaration all of whose units were handed to a sink. -/
def settle (j : Job) (artifacts : List ArtifactRecord) : DeclarationRecord :=
  record j (if artifacts.all (·.isWritten) then .generated else .incomplete) artifacts

/-- What a declaration gives: its record, or the error that ends the whole run, and what is to
be reported. -/
abbrev Product := Except EmitError DeclarationRecord × DiagnosticBuffer

/-- Generate the units of one declaration. -/
def process (r : Run) (sink : Sink m) (j : Job) : m Product := do
  match r.prepare j with
  | .error e => return (.error e, .empty)
  | .ok prepared =>
    match prepared.value with
    | none => return (.ok (record j .failed []), prepared.buffer)
    | some units =>
      let (records, refused) ← deliver sink j.location units
      return (settle j <$> records, prepared.buffer.append refused)

/-- Generate declarations in turn, until one ends the run. -/
def processAll (r : Run) (sink : Sink m) :
    List Job → Diagnostics → m (Except EmitError (List DeclarationRecord) × Diagnostics)
  | [], reported => return (.ok [], reported)
  | j :: others, reported => do
    let (result, b) ← r.process sink j
    let reported := (b.flush reported).2
    match result with
    | .error e => return (.error e, reported)
    | .ok record =>
      let (records, reported) ← processAll r sink others reported
      return ((record :: ·) <$> records, reported)

/-- Generate everything, in the order of the declarations. -/
def toSink (r : Run) (sink : Sink m) : ExceptT EmitError m (Report × Diagnostics) :=
  ExceptT.mk do
    let (records, reported) ← r.processAll sink r.jobs []
    return (fun records => (⟨records⟩, reported)) <$> records

end Run

end Companion

import Companion.CommandLine.Form
import Companion.Config.Basic
import Companion.Declaration.Schema
import Companion.Diagnostic.Basic
import Companion.Files.Tree
import Companion.Project.Metadata

/-! Commands and what they print. -/

set_option autoImplicit false

namespace Companion

/-- What a command prints, and why it failed if it did. -/
structure CommandResult where
  output : String
  reports : String
  failure : Option ProjectError
  deriving DecidableEq, Repr

namespace CommandResult

def success (output : String) : CommandResult := ⟨output, "", none⟩

def ofError (e : ProjectError) : CommandResult := ⟨"", "", some e⟩

def exitCode (r : CommandResult) : Nat := if r.failure.isSome then 1 else 0

/-- The line about a failure. -/
def failureLine (e : ProjectError) : String := "Error: " ++ e.message ++ "\n"

/-- All that is printed about problems. -/
def errors (r : CommandResult) : String :=
  r.reports ++ ((r.failure.map failureLine).getD "")

end CommandResult

namespace Command

def jsonText (j : Json) : String := j.pretty 0 ++ "\n"

def linesText (lines : List String) : String := String.join (lines.map (· ++ "\n"))

/-- Errors that were reported, if there were any. -/
def verdict (report : Report) (reported : Diagnostics) : Option ProjectError :=
  if report.isSuccess && !Diagnostics.hasErrors reported then none
  else some (.reported (Diagnostics.errorCount reported))

/-- The result of a run: a report in JSON, or a summary with further lines. -/
def runResult (json : Bool) (report : Report) (reported : Diagnostics) (files : List String) :
    CommandResult :=
  let failure := verdict report reported
  if json then
    ⟨jsonText (.object [("report", report.toJson),
      ("diagnostics", .array (reported.map Diagnostic.toJson))]), "", failure⟩
  else
    ⟨linesText (report.summary :: files.map ("  " ++ ·)),
      linesText (reported.map Diagnostic.render), failure⟩

variable {m : Type → Type} [Monad m]

/-- Run all declarations of a project. -/
def runProject (h : Host m) (p : Project) (sink : Sink m) : Steps m (Report × Diagnostics) := do
  let sources ← p.loadSources h
  ExceptT.mk (Except.mapError .emission <$> ((Run.ofSources p.config sources).toSink sink).run)

def overrides (o : OutputOptions) : Config.Overrides where
  outputDir := o.outputDir
  jobs := o.jobs
  autoFormat := if o.noFormat then some false else none
  provenance := if o.noProvenance then some false else none
  runtimePath := o.runtimePath

/-- Take over a run into the metadata of the output directory. -/
def remember (h : Host m) (p : Project) (report : Report) : Steps m Unit := do
  let dir := p.config.outputDir
  let known := (← Metadata.load h dir).getD (Metadata.empty (← h.now))
  let (recorded, known) ← (known.record h p.baseDir report : m _)
  match recorded with
  | .error e => throw e
  | .ok () => known.save h dir

def generateUnits (h : Host m) (i : InputOptions) (o : OutputOptions) : Steps m CommandResult := do
  let p ← Project.discover h i.input i.config
  match p.config.merge (overrides o) with
  | .error e => throw (.config e)
  | .ok config =>
    let p := { p with config }
    let (report, reported) ← runProject h p (h.sink config.outputDir)
    remember h p report
    let files := report.writtenFiles.map (Path.join config.outputDir)
    return runResult i.json report reported files

/-- A sink that takes everything and keeps nothing. -/
def nowhere : Sink m := fun _ _ => return .ok ()

def checkUnits (h : Host m) (i : InputOptions) : Steps m CommandResult := do
  let p ← Project.discover h i.input i.config
  let (report, reported) ← runProject h p nowhere
  return runResult i.json report reported []

def schemaDocument : SchemaKind → SchemaDocument
  | .declarations => Declaration.fileSchema
  | .config => Config.schema
  | .metadata => Metadata.schema

/-- Declaration files that changed and units that nothing generates any more. -/
structure Status where
  outputDir : String
  sources : Nat
  stale : List String
  orphaned : List String
  deriving DecidableEq, Repr

namespace Status

def toJson (s : Status) : Json := .object [
  ("output_dir", .text s.outputDir), ("sources", .integer s.sources),
  ("stale", .array (s.stale.map .text)), ("orphaned", .array (s.orphaned.map .text))]

/-- Paths under a title that counts them. -/
def listing (title : String) (paths : List String) : List String :=
  (title ++ " (" ++ toString paths.length ++ "):") :: paths.map ("  " ++ ·)

def lines (s : Status) : List String :=
  ["Output: " ++ s.outputDir, "Declaration files: " ++ toString s.sources] ++
    (if s.stale.isEmpty then ["✓ All declaration files are up to date"]
      else listing "Stale" s.stale) ++
    (if s.orphaned.isEmpty then [] else listing "Orphaned" s.orphaned)

def ofProject (h : Host m) (p : Project) : Steps m Status := do
  let dir := p.config.outputDir
  let stale ← Metadata.staleSources h p.sources p.baseDir dir
  let current := (← p.loadSources h).flatMap fun s => s.declarations.map (·.name)
  let orphaned ← match ← Metadata.load h dir with
    | some known => (known.orphans h dir current : m (List String))
    | none => pure []
  return ⟨dir, p.sources.length, stale, orphaned⟩

end Status

def showStatus (h : Host m) (i : InputOptions) : Steps m CommandResult := do
  let s ← Status.ofProject h (← Project.discover h i.input i.config)
  return .success (if i.json then jsonText s.toJson else linesText s.lines)

def steps (h : Host m) : Command → Steps m CommandResult
  | .generate i o => generateUnits h i o
  | .check i => checkUnits h i
  | .schema kind => return .success (jsonText (schemaDocument kind).toJson)
  | .status i => showStatus h i

/-- Do what is asked for. -/
def execute (h : Host m) (c : Command) : m CommandResult := do
  match ← (c.steps h).run with
  | .ok r => return r
  | .error e => return .ofError e

end Command

end Companion

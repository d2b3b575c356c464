import Companion.Digest.Sha256
import Companion.Generate.Run
import Companion.Json.Basic
import Companion.Project.Basic
import Companion.Yaml.Writer

/-! What is remembered of runs, in the directory that units are written to.

A declaration file is stale if its digest is not the one it had when it was last generated without
error. Units of declarations that are no more are orphans.
-/

set_option autoImplicit false

namespace Companion

structure Metadata where
  /-- Digests of declaration files by their paths from the base directory. -/
  sourceHashes : Dictionary String
  /-- Written files by declarations. -/
  generatedFiles : Dictionary (List String)
  /-- Seconds since the beginning of 1970. -/
  generatedAt : Int
  toolVersion : String
  deriving DecidableEq, Repr, Inhabited

namespace Metadata

def empty (time : Int) : Metadata := ⟨.empty, .empty, time, version⟩

/-! ### Text -/

open Yaml (Node Read Fields)

/-- The seconds of the years that dates can have. -/
def isTime (seconds : Int) : Bool := -8334601228800 ≤ seconds && seconds ≤ 8210266876799

def readTime (n : Node) : Read Int := do
  let seconds ← Read.integer n
  guard (isTime seconds)
  return seconds

def read (n : Node) : Read Metadata := do
  let f ← Fields.read
    ["source_hashes", "generated_files", "generated_at", "tool_version"] false n
  return {
    sourceHashes := ← f.required "source_hashes" (Read.dictionary Read.text Read.text)
    generatedFiles :=
      ← f.getD "generated_files" (Read.dictionary Read.text (Read.list Read.text)) .empty
    generatedAt := ← f.required "generated_at" readTime
    toolVersion := ← f.required "tool_version" Read.text }

def ofText? (text : String) : Option Metadata :=
  (Yaml.Document.ofText? text).bind fun d => Read.run d read

def heading : List String := [
  "# AUTO-GENERATED - DO NOT EDIT",
  "# Declaration file hashes, rewritten by 'declgen generate'",
  ""]

def toText (m : Metadata) : String :=
  let hash (entry : String × String) := (entry.1, Yaml.quote entry.2)
  let files (entry : String × List String) := (entry.1, Yaml.list 2 (entry.2.map Yaml.quote))
  String.join (heading.map (· ++ "\n")) ++ Yaml.mapping 0 [
    ("source_hashes", Yaml.mapping 1 (m.sourceHashes.entries.map hash)),
    ("generated_files", Yaml.mapping 1 (m.generatedFiles.entries.map files)),
    ("generated_at", toString m.generatedAt),
    ("tool_version", Yaml.quote m.toolVersion)] ++ "\n"

/-! ### Sources and units -/

/-- The path of a declaration file from the base directory. -/
def sourceKey? (base source : String) : Option String :=
  (Path.relativeTo? base source).map (Text.replaceAll "\\" "/")

/-- Count a file among those of a declaration, once. -/
def track (m : Metadata) (declaration file : String) : Metadata :=
  let known := (m.generatedFiles.get? declaration).getD []
  let files := if known.contains file then known else known ++ [file]
  { m with generatedFiles := m.generatedFiles.insert declaration files }

/-- Take over the written files of a declaration. If all were written, earlier ones are
forgotten. -/
def recordFiles (m : Metadata) (r : DeclarationRecord) : Metadata :=
  let written := r.writtenFiles
  let m := if written.length = r.artifacts.length ∧ written ≠ [] then
      { m with generatedFiles := m.generatedFiles.erase r.declaration }
    else m
  written.foldl (·.track r.declaration) m

/-- Each path once. Of texts that are one path the last counts. -/
def distinctPaths : List String → List String
  | [] => []
  | path :: others =>
    if others.any (Path.same path) then distinctPaths others else path :: distinctPaths others

/-- Sources of a run without an error, each once and in order. -/
def soundSources (r : Report) : List String :=
  let failed := (r.declarations.filter (·.outcome ≠ .generated)).filterMap (·.sourceFile)
  let sound := (r.declarations.filterMap (·.sourceFile)).filter fun s => !failed.any (Path.same s)
  (distinctPaths sound).mergeSort Path.before

section

variable {m : Type → Type} [Monad m]

def hashFile (h : Host m) (path : String) : Steps m String :=
  return Sha256.hexDigest (← Steps.ofFile (h.read path))

/-- Remember the digest of a declaration file. -/
def updateHash (known : Metadata) (h : Host m) (base source : String) : Steps m Metadata := do
  match sourceKey? base source with
  | none => throw (.outside source base)
  | some key =>
    let hash ← hashFile h source
    return { known with sourceHashes := known.sourceHashes.insert key hash }

/-- Remember digests up to the first failure. -/
def updateHashes (known : Metadata) (h : Host m) (base : String) :
    List String → m (Except ProjectError Unit × Metadata)
  | [] => return (.ok (), known)
  | source :: others => do
    match ← (known.updateHash h base source).run with
    | .ok known => updateHashes known h base others
    | .error e => return (.error e, known)

/-- Take over the files and digests of a run. -/
def record (known : Metadata) (h : Host m) (base : String) (r : Report) :
    m (Except ProjectError Unit × Metadata) := do
  let known := r.declarations.foldl recordFiles known
  match ← known.updateHashes h base (soundSources r) with
  | (.ok (), known) =>
    return (.ok (), { known with generatedAt := ← h.now, toolVersion := version })
  | failure => return failure

/-- Whether a declaration file has changed. One that cannot be read has no digest. -/
def isStale (known : Metadata) (h : Host m) (base source : String) : m Bool := do
  match sourceKey? base source with
  | none => return true
  | some key =>
    let hash ← (hashFile h source).run
    return known.sourceHashes.get? key != some (hash.toOption.getD "")

/-- Files of declarations that are no more. -/
def orphans (known : Metadata) (h : Host m) (outputDir : String) (current : List String) :
    m (List String) := do
  let gone := known.generatedFiles.entries.filter fun entry => !current.contains entry.1
  let paths := gone.flatMap fun entry => entry.2.map (Path.join outputDir)
  paths.filterM h.exists?

def load (h : Host m) (outputDir : String) : Steps m (Option Metadata) := do
  let path := Path.join outputDir metadataFile
  if ← h.exists? path then
    match ofText? (← Steps.ofFile (h.read path)) with
    | some known => return some known
    | none => throw .metadata
  else return none

def save (known : Metadata) (h : Host m) (outputDir : String) : Steps m Unit := do
  Steps.ofFile (h.makeDir outputDir)
  Steps.ofFile (h.write (Path.join outputDir metadataFile) known.toText)

/-- Declaration files that have changed; without metadata that is all of them. -/
def staleSources (h : Host m) (sources : List String) (base outputDir : String) :
    Steps m (List String) := do
  match ← load h outputDir with
  | none => return sources
  | some known => sources.filterM fun source => (known.isStale h base source : m Bool)

end

end Metadata

end Companion

/-! ### The schema of metadata -/

namespace Companion.Metadata

def schema : SchemaDocument where
  title := "GenerationMeta"
  root := .described "Metadata file stored in the output directory" (.record [
    ("source_hashes", .described "Hash of each declaration file (relative path -> SHA256)"
      (.dictionary .text)),
    ("generated_files", .described
      "Generated files per declaration, relative to the output directory"
      (.withDefault (.object []) (.dictionary (.list .text)))),
    ("generated_at", .described "When this metadata was written" .integer),
    ("tool_version", .described "declgen version that wrote this" .text)]
    ["source_hashes", "generated_at", "tool_version"] true)
  definitions := []

end Companion.Metadata

import Companion.Declaration.Basic
import Companion.Json.Basic
import Companion.Model.Batch
import Companion.Text.Basic
import Companion.Yaml.Reader

/-! How companions are named and generated. -/

set_option autoImplicit false

namespace Companion

/-- Names of generated types and files. -/
structure Naming.Scheme where
  subclassSuffix : String
  builderSuffix : String
  converterSuffix : String
  /-- A pattern with holes for parts of the name. -/
  file : String
  deriving DecidableEq, Repr, Inhabited

namespace Naming.Scheme

def standard : Scheme := ⟨"Subclass", "Builder", "Converter", "\x7bsnake\x7d.rs"⟩

def suffix (s : Scheme) : ArtifactKind → String
  | .subclass => s.subclassSuffix
  | .builder => s.builderSuffix
  | .converter => s.converterSuffix

/-- The name of a generated type. -/
def outputName (s : Scheme) (declaration : String) (kind : ArtifactKind) : String :=
  declaration ++ s.suffix kind

def snakeHole : String := "\x7bsnake\x7d"

def nameHole : String := "\x7bname\x7d"

def declarationHole : String := "\x7bdeclaration\x7d"

def kindHole : String := "\x7bkind\x7d"

/-- The name of a generated file. Holes are filled one after the other, so that a filling may
bring in holes of those that come later. -/
def fileName (s : Scheme) (declaration : String) (kind : ArtifactKind) : String :=
  let output := s.outputName declaration kind
  let fill (hole filling text : String) := Text.replaceAll hole filling text
  fill kindHole kind.name <| fill declarationHole declaration <| fill nameHole output <|
    fill snakeHole (snakeCase output) s.file

/-- Whether the pattern has holes that tell all units apart. -/
def separates (s : Scheme) : Bool :=
  Text.occurs snakeHole s.file || Text.occurs nameHole s.file ||
    (Text.occurs declarationHole s.file && Text.occurs kindHole s.file)

end Naming.Scheme

structure Config where
  outputDir : String
  naming : Naming.Scheme
  maxCacheArity : Nat
  autoFormat : Bool
  /-- Whether units say where they come from. -/
  provenance : Bool
  jobs : Nat
  runtimePath : String
  deriving DecidableEq, Repr, Inhabited

/-- Why a text is no configuration that can be used. -/
inductive ConfigError where
  | malformed
  | noCacheArity
  | cacheArityTooLarge (found limit : Nat)
  | noJobs
  | sharedFile (pattern : String)
  deriving DecidableEq, Repr

namespace ConfigError

/-- What is wrong with the values, if the text is a configuration. -/
def complaint? : ConfigError → Option String
  | malformed => none
  | noCacheArity => some "max_cache_arity must be at least 1"
  | cacheArityTooLarge found limit =>
    some ("max_cache_arity must be at most " ++ toString limit ++ " but was " ++ toString found)
  | noJobs => some "jobs must be at least 1"
  | sharedFile pattern =>
    some ("naming.file `" ++ pattern ++ "` does not give each artifact its own file")

def message (e : ConfigError) : String :=
  match e.complaint? with
  | some complaint => "Config error: " ++ complaint
  | none => "YAML error: " ++ Text.unexplained

end ConfigError

namespace Config

def standard : Config := ⟨"generated", .standard, 8, true, true, 1, "::declgen::runtime"⟩

/-- The widest tuple that can be hashed. -/
def cacheArityLimit : Nat := 12

def validate (c : Config) : Except ConfigError Config :=
  if c.maxCacheArity = 0 then .error .noCacheArity
  else if cacheArityLimit < c.maxCacheArity then
    .error (.cacheArityTooLarge c.maxCacheArity cacheArityLimit)
  else if c.jobs = 0 then .error .noJobs
  else if !c.naming.separates then .error (.sharedFile c.naming.file)
  else .ok c

/-- Values that replace those of a configuration. -/
structure Overrides where
  outputDir : Option String
  jobs : Option Nat
  autoFormat : Option Bool
  provenance : Option Bool
  runtimePath : Option String
  deriving DecidableEq, Repr, Inhabited

def merge (c : Config) (o : Overrides) : Except ConfigError Config :=
  { c with
    outputDir := o.outputDir.getD c.outputDir
    jobs := o.jobs.getD c.jobs
    autoFormat := o.autoFormat.getD c.autoFormat
    provenance := o.provenance.getD c.provenance
    runtimePath := o.runtimePath.getD c.runtimePath : Config }.validate

def modelOptions (c : Config) : ModelOptions :=
  ⟨min c.maxCacheArity cacheArityLimit, c.naming.subclassSuffix⟩

end Config

end Companion

/-! ### Reading -/

namespace Companion

open Yaml (Node Read Fields)

def Naming.Scheme.read (n : Node) : Read Naming.Scheme := do
  let f ← Fields.read ["subclass_suffix", "builder_suffix", "converter_suffix", "file"] true n
  return {
    subclassSuffix := ← f.getD "subclass_suffix" Read.text standard.subclassSuffix
    builderSuffix := ← f.getD "builder_suffix" Read.text standard.builderSuffix
    converterSuffix := ← f.getD "converter_suffix" Read.text standard.converterSuffix
    file := ← f.getD "file" Read.text standard.file }

namespace Config

def read (n : Node) : Read Config := do
  let f ← Fields.read ["output_dir", "naming", "max_cache_arity", "auto_format", "provenance",
    "jobs", "runtime_path"] true n
  return {
    outputDir := ← f.getD "output_dir" Read.text standard.outputDir
    naming := ← f.getD "naming" Naming.Scheme.read standard.naming
    maxCacheArity := ← f.getD "max_cache_arity" Read.natural standard.maxCacheArity
    autoFormat := ← f.getD "auto_format" Read.bool standard.autoFormat
    provenance := ← f.getD "provenance" Read.bool standard.provenance
    jobs := ← f.getD "jobs" Read.natural standard.jobs
    runtimePath := ← f.getD "runtime_path" Read.text standard.runtimePath }

/-- The configuration in a text. One of blanks alone is the standard one. -/
def ofText (text : String) : Except ConfigError Config :=
  if (Text.trim text).isEmpty then .ok standard
  else
    match (Yaml.Document.ofText? text).bind fun d => Read.run d read with
    | some c => c.validate
    | none => .error .malformed

end Config

end Companion

/-! ### Configurations as JSON, and their schema -/

namespace Companion

def Naming.Scheme.toJson (s : Naming.Scheme) : Json := .object [
  ("builder_suffix", .text s.builderSuffix), ("converter_suffix", .text s.converterSuffix),
  ("file", .text s.file), ("subclass_suffix", .text s.subclassSuffix)]

def Naming.Scheme.schema : Schema :=
  let text (default : String) : Schema := .withDefault (.text default) .text
  .described "Naming convention for generated types and files" (.record [
    ("subclass_suffix", text standard.subclassSuffix),
    ("builder_suffix", text standard.builderSuffix),
    ("converter_suffix", text standard.converterSuffix),
    ("file", .described
      "File pattern: \x7bsnake\x7d, \x7bname\x7d, \x7bdeclaration\x7d, \x7bkind\x7d"
      (text standard.file))] [] false)

namespace Config

def toJson (c : Config) : Json := .object [
  ("output_dir", .text c.outputDir), ("naming", c.naming.toJson),
  ("max_cache_arity", .integer c.maxCacheArity), ("auto_format", .bool c.autoFormat),
  ("provenance", .bool c.provenance), ("jobs", .integer c.jobs),
  ("runtime_path", .text c.runtimePath)]

def count (n : Nat) : Schema := .withDefault (.integer n) .count

def flag (b : Bool) : Schema := .withDefault (.bool b) .bool

def schema : SchemaDocument where
  title := "Config"
  root := .described "Project configuration (`declgen.yaml`)" (.record [
    ("output_dir", .described
      "Directory generated units are written to, relative to the config file"
      (.withDefault (.text standard.outputDir) .text)),
    ("naming", .described "Names of generated types and files"
      (.withDefault standard.naming.toJson (.named "NamingConfig"))),
    ("max_cache_arity", .described "Largest parameter count a cached method may have"
      (count standard.maxCacheArity)),
    ("auto_format", .described "Pretty-print generated code" (flag standard.autoFormat)),
    ("provenance", .described "Prepend source file, declaration and hash to each unit"
      (flag standard.provenance)),
    ("jobs", .described "Worker threads; 1 generates sequentially" (count standard.jobs)),
    ("runtime_path", .described "Path generated code uses to reach the runtime support module"
      (.withDefault (.text standard.runtimePath) .text))] [] false)
  definitions := [("NamingConfig", Naming.Scheme.schema)]

end Config

end Companion

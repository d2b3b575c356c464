import Companion.Config.Basic
import Companion.Declaration.Reader
import Companion.Declaration.Source
import Companion.Emit.Artifact
import Companion.Files.Path
import Companion.Files.Tree

/-! Declaration files and their configuration.

A project is found from a declaration file or from a directory that is searched for such files.
The nearest configuration file at or above it counts.
-/

set_option autoImplicit false

namespace Companion

/-! ### What ends a command -/

inductive ProjectError where
  | declarations (error : DeclarationError)
  | config (error : ConfigError)
  | configFile (path : String) (error : ConfigError)
  | emission (error : EmitError)
  | file (error : FileError)
  | missingInput (path : String)
  /-- A file that metadata cannot name because it lies outside the directory. -/
  | outside (path base : String)
  | metadata
  /-- Errors that have been reported in full. -/
  | reported (count : Nat)
  deriving DecidableEq, Repr

/-- The file in an output directory that holds the metadata. -/
def metadataFile : String := ".declgen_meta.yaml"

def ProjectError.message : ProjectError → String
  | declarations e => e.message
  | config e => e.message
  | configFile path e => "Config error: Failed to parse " ++ path ++ ": " ++ e.message
  | emission e => "Emission error: " ++ e.message
  | file e => "IO error: " ++ e.message
  | missingInput path => path ++ " does not exist"
  | outside path base => path ++ " is outside " ++ base
  | metadata => "Failed to parse " ++ metadataFile ++ ": " ++ Text.unexplained
  | reported count => toString count ++ " error(s) reported"

/-- Steps of a command, which a cause ends. -/
abbrev Steps (m : Type → Type) := ExceptT ProjectError m

namespace Steps

variable {m : Type → Type} [Monad m] {α : Type}

/-- A file operation, whose failure ends the command. -/
def ofFile (x : m (Except FileError α)) : Steps m α := ExceptT.mk (Except.mapError .file <$> x)

end Steps

/-! ### Files and configuration -/

variable {m : Type → Type} [Monad m]

namespace Config

def fileName : String := "declgen.yaml"

/-- Read a configuration file. Its output directory is seen from where the file is. -/
def load (h : Host m) (path : String) : Steps m Config := do
  let text ← Steps.ofFile (h.read path)
  match ofText text with
  | .error e => throw (.configFile path e)
  | .ok c =>
    match Path.parent? path with
    | some dir => return { c with outputDir := Path.join dir c.outputDir }
    | none => return c

/-- Read the configuration file of a directory, if there is one. -/
def loadFrom (h : Host m) (dir : String) : Steps m (Option Config) := do
  let path := Path.join dir fileName
  if ← h.exists? path then return some (← load h path)
  return none

end Config

namespace DeclarationSource

def load (h : Host m) (path : String) : Steps m DeclarationSource := do
  match ofText (← Steps.ofFile (h.read path)) (some path) with
  | .ok source => return source
  | .error e => throw (.declarations e)

end DeclarationSource

structure Project where
  /-- The directory that paths in metadata start from. -/
  baseDir : String
  config : Config
  /-- Declaration files in order. -/
  sources : List String
  deriving DecidableEq, Repr, Inhabited

namespace Project

def declarationEndings : List String := [".decl.yaml", ".decl.yml"]

def isDeclarationFile (path : String) : Bool :=
  (Path.fileName? path).any fun name => declarationEndings.any (Text.endsWith · name)

/-- The first path that leads to a file. -/
def firstFile (h : Host m) : List String → m (Option String)
  | [] => return none
  | path :: others => do
    if ← h.isFile path then return some path
    firstFile h others

/-- The configuration file at or above a directory. -/
def findConfig (h : Host m) (start : String) : m (Option String) :=
  firstFile h ((Path.ancestors start).map fun dir => Path.join dir Config.fileName)

/-- Whether a search passes over a path: it is hidden, or units are written there. -/
def isSkipped (outputDir path : String) : Bool :=
  (Path.fileName? path).any (Text.startsWith "." ·) || Path.same path outputDir

/-- Declaration files under a directory. -/
def collect (h : Host m) (outputDir : String) : Nat → String → Steps m (List String)
  | 0, _ => return []
  | depth + 1, dir => do
    let paths := (← Steps.ofFile (h.list dir)).map (Path.join dir)
    let found ← (paths.filter fun path => !isSkipped outputDir path).mapM fun path => do
      if ← h.isDir path then collect h outputDir depth path
      else return if isDeclarationFile path then [path] else []
    return found.flatten

/-- The configuration in a file, and the directory it is for. -/
def configured (h : Host m) (path : String) : Steps m (Config × String) :=
  return (← Config.load h path, Path.parent path)

/-- The configuration for a directory, and the directory it is for. -/
def nearestConfig (h : Host m) (dir : String) : Steps m (Config × String) := do
  match ← (findConfig h dir : m (Option String)) with
  | some path => configured h path
  | none =>
    let standard := Config.standard
    return ({ standard with outputDir := Path.join dir standard.outputDir }, dir)

/-- A given configuration, or that for a directory. -/
def configure (h : Host m) (dir : String) : Option String → Steps m (Config × String)
  | some path => configured h path
  | none => nearestConfig h dir

def discover (h : Host m) (input : String) (configPath : Option String) : Steps m Project := do
  match ← h.kind? input with
  | none => throw (.missingInput input)
  | some .directory =>
    let (config, baseDir) ← configure h input configPath
    let found ← collect h config.outputDir Path.lengthLimit input
    return ⟨baseDir, config, found.mergeSort Path.before⟩
  | some .file =>
    let (config, baseDir) ← configure h (Path.parent input) configPath
    return ⟨baseDir, config, [input]⟩

def loadSources (h : Host m) (p : Project) : Steps m (List DeclarationSource) :=
  p.sources.mapM (DeclarationSource.load h)

end Project

end Companion

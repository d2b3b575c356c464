import Companion.Text.Basic

/-! The arguments that commands take, and their description for users. -/

set_option autoImplicit false

namespace Companion

/-! ### What the program can be asked to do -/

inductive SchemaKind where
  | declarations
  | config
  | metadata
  deriving DecidableEq, Repr

def SchemaKind.name : SchemaKind → String
  | declarations => "declarations"
  | config => "config"
  | metadata => "meta"

def SchemaKind.description : SchemaKind → String
  | declarations => "Declaration files (*.decl.yaml)"
  | config => "declgen.yaml"
  | metadata => ".declgen_meta.yaml"

def SchemaKind.all : List SchemaKind := [declarations, config, metadata]

/-- Declarations and where their configuration is, if that is not the nearest one. -/
structure InputOptions where
  input : String
  config : Option String
  /-- Whether to answer in JSON. -/
  json : Bool
  deriving DecidableEq, Repr

/-- Values that replace those of the configuration. -/
structure OutputOptions where
  outputDir : Option String
  jobs : Option Nat
  noFormat : Bool
  noProvenance : Bool
  runtimePath : Option String
  deriving DecidableEq, Repr

inductive Command where
  | generate (input : InputOptions) (output : OutputOptions)
  /-- Generate without writing. -/
  | check (input : InputOptions)
  | schema (kind : SchemaKind)
  | status (input : InputOptions)
  deriving DecidableEq, Repr

/-! ### Arguments -/

/-- What values an option or a positional argument accepts. -/
inductive ValueKind where
  /-- A path, which is not empty. -/
  | path
  /-- A number that fits into 64 bits. -/
  | count
  | text
  | schema
  deriving DecidableEq, Repr

structure OptionForm where
  long : String
  short : Option Char
  /-- The name and the kind of the value; a flag has none. -/
  value : Option (String × ValueKind)
  description : String
  deriving DecidableEq, Repr

/-- An argument without a name, which can be left out. -/
structure PositionalForm where
  name : String
  kind : ValueKind
  default : String
  description : String
  deriving DecidableEq, Repr

structure CommandForm where
  name : String
  description : String
  positional : PositionalForm
  options : List OptionForm
  deriving DecidableEq, Repr

namespace CommandForm

def config (description : String) : OptionForm :=
  ⟨"config", some 'c', some ("CONFIG", .path), description⟩

def json (description : String) : OptionForm := ⟨"json", none, none, description⟩

def path (description : String) : PositionalForm := ⟨"PATH", .path, ".", description⟩

def nearest : String := "Configuration file (default: nearest declgen.yaml)"

def generate : CommandForm where
  name := "generate"
  description := "Generate every declaration under a path"
  positional := path "Declaration file or directory"
  options := [
    config nearest,
    ⟨"output", some 'o', some ("DIR", .path), "Output directory, overriding the configuration"⟩,
    ⟨"jobs", some 'j', some ("JOBS", .count), "Worker threads"⟩,
    ⟨"no-format", none, none, "Write generated code as emitted"⟩,
    ⟨"no-provenance", none, none, "Leave out the provenance header"⟩,
    ⟨"runtime-path", none, some ("PATH", .text),
      "Path generated code uses to reach the runtime module"⟩,
    json "Print the report as JSON"]

def check : CommandForm where
  name := "check"
  description := "Run generation without writing files"
  positional := path "Declaration file or directory"
  options := [config nearest, json "Print the report as JSON"]

def schema : CommandForm where
  name := "schema"
  description := "Print a JSON schema"
  positional := ⟨"KIND", .schema, SchemaKind.declarations.name, ""⟩
  options := []

def status : CommandForm where
  name := "status"
  description := "Show stale declaration files and orphaned generated files"
  positional := path ""
  options := [config "", json ""]

def all : List CommandForm := [generate, check, schema, status]

end CommandForm

end Companion

/-! ### Texts that tell users about the program and its commands -/

namespace Companion.Help

def programName : String := "declgen"

def about : String := "Generate concrete types, builders and converters from declarations"

/-- Sections of lines with an empty line between them. -/
def render (sections : List (List String)) : String :=
  String.join ((sections.intersperse [""]).flatten.map fun line => line ++ "\n")

/-- Descriptions behind what they describe, in a column of their own. A line without a
description reaches up to the column. -/
def table (title : String) (rows : List (String × String)) : List String :=
  let width := (rows.map fun row => row.1.length).foldl max 0
  title :: rows.map fun (name, description) =>
    let padding := String.ofList (List.replicate (width - name.length) ' ')
    "  " ++ name ++ padding ++ "  " ++ description

/-- A description on lines below what it describes. -/
def paragraph (name : String) (lines : List String) : List String :=
  ("  " ++ name) :: lines.map fun line => Text.trimEnd ("          " ++ line)

def helpOption : String := "-h, --help"

def optionName (o : OptionForm) : String :=
  (match o.short with
    | some c => "-" ++ String.singleton c ++ ", "
    | none => "    ") ++ "--" ++ o.long ++
  match o.value with
    | some (label, _) => " <" ++ label ++ ">"
    | none => ""

def positionalName (p : PositionalForm) : String := "[" ++ p.name ++ "]"

def default (p : PositionalForm) : String := "[default: " ++ p.default ++ "]"

/-- The values that an argument can have, if they are few. -/
def choices (kind : ValueKind) : List SchemaKind :=
  if kind = .schema then SchemaKind.all else []

def usage (f : CommandForm) : List String :=
  ["Usage: " ++ programName ++ " " ++ f.name ++
    (if f.options.isEmpty then " " else " [OPTIONS] ") ++ positionalName f.positional]

def join (parts : List String) : String := " ".intercalate (parts.filter (!·.isEmpty))

/-- Whether there is more to say about a command than fits behind its arguments. -/
def hasDetails (f : CommandForm) : Bool := !(choices f.positional.kind).isEmpty

def summary (f : CommandForm) : String :=
  let p := f.positional
  let values := match choices p.kind with
    | [] => ""
    | kinds => "[possible values: " ++ ", ".intercalate (kinds.map SchemaKind.name) ++ "]"
  let help := if hasDetails f then "Print help (see more with '--help')" else "Print help"
  render [[f.description], usage f,
    table "Arguments:" [(positionalName p, join [p.description, default p, values])],
    table "Options:" (f.options.map (fun o => (optionName o, o.description)) ++
      [(helpOption, help)])]

/-- All about a command that has details. -/
def details (f : CommandForm) : String :=
  let kinds := choices f.positional.kind
  let width := (kinds.map fun kind => kind.name.length).foldl max 0
  let choice (kind : SchemaKind) : String :=
    "- " ++ kind.name ++ ": " ++
      String.ofList (List.replicate (width - kind.name.length) ' ') ++ kind.description
  render [[f.description], usage f,
    "Arguments:" :: paragraph (positionalName f.positional)
      ([default f.positional, "", "Possible values:"] ++ kinds.map choice),
    "Options:" :: paragraph helpOption ["Print help (see a summary with '-h')"]]

def command (f : CommandForm) (isLong : Bool) : String :=
  if isLong && hasDetails f then details f else summary f

def helpDescription : String := "Print this message or the help of the given subcommand(s)"

def program : String :=
  render [[about], ["Usage: " ++ programName ++ " <COMMAND>"],
    table "Commands:" (CommandForm.all.map (fun f => (f.name, f.description)) ++
      [("help", helpDescription)]),
    table "Options:" [(helpOption, "Print help"), ("-V, --version", "Print version")]]

/-- About the command that tells about commands. -/
def help : String :=
  render [[helpDescription], ["Usage: " ++ programName ++ " help [COMMAND]..."],
    table "Arguments:" [("[COMMAND]...", "Print help for the subcommand(s)")]]

end Companion.Help

import Companion.CommandLine.Form
import Companion.Decimal.Layout
import Companion.Decimal.Word

/-! Requests from the arguments of the program.

Arguments are taken from left to right, and the first that is wrong counts. Values of options
stand behind them, with or without an equals sign; two dashes end the options.
-/

set_option autoImplicit false

namespace Companion

inductive UsageError where
  | missingCommand
  | unknownCommand (name : String)
  | unexpectedArgument (argument : String)
  | missingValue (option : String)
  | unexpectedValue (option : String)
  | invalidValue (argument value : String)
  | repeated (option : String)
  deriving DecidableEq, Repr

def UsageError.message : UsageError → String
  | missingCommand => "a command is required"
  | unknownCommand name => "unrecognized command '" ++ name ++ "'"
  | unexpectedArgument argument => "unexpected argument '" ++ argument ++ "'"
  | missingValue option => "a value is required for '--" ++ option ++ "'"
  | unexpectedValue option => "no value is expected for '--" ++ option ++ "'"
  | invalidValue argument value =>
    "invalid value '" ++ value ++ "' for '" ++ argument ++ "'"
  | repeated option => "the argument '--" ++ option ++ "' cannot be used multiple times"

/-- What the program is to do. -/
inductive Request where
  /-- Print a text that helps the user. -/
  | explain (text : String)
  | run (command : Command)
  deriving DecidableEq, Repr

/-- Arguments that have been taken. -/
structure Arguments where
  flags : List String
  values : List (String × String)
  positional : Option String
  deriving DecidableEq, Repr

/-- A count, which can have a plus sign. -/
def ValueKind.count? (text : String) : Option Nat :=
  let digits := match text.toList with
    | '+' :: rest => rest
    | cs => cs
  if digits.isEmpty || !digits.all Decimal.isDigit then none
  else
    let n := Decimal.valueOf digits
    if Word.fitsUnsigned 64 n then some n else none

def ValueKind.schema? (text : String) : Option SchemaKind :=
  SchemaKind.all.find? (·.name = text)

def ValueKind.accepts (value : String) : ValueKind → Bool
  | path => !value.isEmpty
  | count => (count? value).isSome
  | text => true
  | schema => (schema? value).isSome

namespace Arguments

def empty : Arguments := ⟨[], [], none⟩

def has (a : Arguments) (option : String) : Bool :=
  a.flags.contains option || (a.values.lookup option).isSome

def addFlag (a : Arguments) (option : String) : Except UsageError Arguments :=
  if a.has option then .error (.repeated option)
  else .ok { a with flags := option :: a.flags }

def addValue (a : Arguments) (option : String) (kind : ValueKind) (value : String) :
    Except UsageError Arguments :=
  if !kind.accepts value then .error (.invalidValue ("--" ++ option) value)
  else if a.has option then .error (.repeated option)
  else .ok { a with values := (option, value) :: a.values }

def addPositional (a : Arguments) (form : PositionalForm) (value : String) :
    Except UsageError Arguments :=
  if a.positional.isSome then .error (.unexpectedArgument value)
  else if !form.kind.accepts value then .error (.invalidValue form.name value)
  else .ok { a with positional := some value }

/-- Whether an argument is an option, so that it cannot be the value of another. A lone dash is
none. -/
def isOption (argument : String) : Bool := Text.startsWith "-" argument && argument ≠ "-"

/-- An option as it is written: in full or by its letter, with a value attached to it. -/
inductive Written where
  | long (name : String) (value : Option String)
  | short (letter : Char) (value : Option String)
  | positional
  | terminator
  deriving DecidableEq, Repr

/-- What follows the name of an option: nothing, or a value behind an equals sign. -/
def attached : List Char → Option String
  | [] => none
  | _ :: value => some (String.ofList value)

def Written.ofArgument (argument : String) : Written :=
  match argument.toList with
  | ['-', '-'] => .terminator
  | '-' :: '-' :: rest =>
    .long (String.ofList (rest.takeWhile (· ≠ '='))) (attached (rest.dropWhile (· ≠ '=')))
  | '-' :: letter :: rest =>
    .short letter (if rest.isEmpty then none
      else some (String.ofList (if rest.head? = some '=' then rest.tail else rest)))
  | _ => .positional

/-- The option that is meant and the value attached to it, if the argument names one. -/
def Written.option? (form : CommandForm) : Written → Option (OptionForm × Option String)
  | .long name value => (form.options.find? (·.long = name)).map (·, value)
  | .short letter value => (form.options.find? (·.short = some letter)).map (·, value)
  | _ => none

/-- Whether help is asked for, in full or in short. -/
def Written.help? : Written → Option Bool
  | .long "help" none => some true
  | .short 'h' _ => some false
  | _ => none

/-- Take arguments up to a wish for help. -/
def take (form : CommandForm) (a : Arguments) :
    List String → Except UsageError (Arguments ⊕ Bool)
  | [] => .ok (.inl a)
  | argument :: others =>
    match Written.ofArgument argument with
    | .terminator => .inl <$> others.foldlM (·.addPositional form.positional) a
    | .positional => do take form (← a.addPositional form.positional argument) others
    | written =>
      match written.help? with
      | some isLong => .ok (.inr isLong)
      | none =>
        match written.option? form with
        | none => .error (.unexpectedArgument argument)
        | some (option, value) =>
          match option.value, value with
          | none, none => do take form (← a.addFlag option.long) others
          | none, some _ => .error (.unexpectedValue option.long)
          | some (_, kind), some value => do
            take form (← a.addValue option.long kind value) others
          | some (_, kind), none =>
            match others with
            | [] => .error (.missingValue option.long)
            | value :: others =>
              if isOption value then .error (.missingValue option.long)
              else do take form (← a.addValue option.long kind value) others

end Arguments

namespace Request

def inputOptions (form : CommandForm) (a : Arguments) : InputOptions :=
  ⟨a.positional.getD form.positional.default, a.values.lookup "config", a.has "json"⟩

def outputOptions (a : Arguments) : OutputOptions where
  outputDir := a.values.lookup "output"
  jobs := (a.values.lookup "jobs").bind ValueKind.count?
  noFormat := a.has "no-format"
  noProvenance := a.has "no-provenance"
  runtimePath := a.values.lookup "runtime-path"

/-- A command, by what makes it from its arguments. -/
def commands : List (CommandForm × (Arguments → Command)) := [
  (.generate, fun a => .generate (inputOptions .generate a) (outputOptions a)),
  (.check, fun a => .check (inputOptions .check a)),
  (.schema, fun a =>
    .schema ((a.positional.bind ValueKind.schema?).getD .declarations)),
  (.status, fun a => .status (inputOptions .status a))]

/-- Help about the program or about one of its commands. -/
def helpOn : List String → Except UsageError Request
  | [] => .ok (.explain Help.program)
  | ["help"] => .ok (.explain Help.help)
  | [name] =>
    match CommandForm.all.find? (·.name = name) with
    | some form => .ok (.explain (Help.command form true))
    | none => .error (.unknownCommand name)
  | name :: other :: _ =>
    if name = "help" || CommandForm.all.any (·.name = name) then .error (.unknownCommand other)
    else .error (.unknownCommand name)

/-- The one line that tells the version. -/
def versionLine (version : String) : String := Help.programName ++ " " ++ version ++ "\n"

def ofArguments (version : String) : List String → Except UsageError Request
  | [] => .error .missingCommand
  | argument :: others =>
    match Arguments.Written.ofArgument argument with
    | .long "help" none | .short 'h' _ => .ok (.explain Help.program)
    | .long "version" none | .short 'V' _ => .ok (.explain (versionLine version))
    | .positional =>
      if argument = "help" then helpOn others
      else
        match commands.find? fun entry => entry.1.name = argument with
        | none => .error (.unknownCommand argument)
        | some (form, make) => do
          match ← Arguments.empty.take form others with
          | .inl a => return .run (make a)
          | .inr isLong => return .explain (Help.command form isLong)
    | _ => .error (.unexpectedArgument argument)

end Request

end Companion

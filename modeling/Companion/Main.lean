import Companion.CommandLine.Execute
import Companion.CommandLine.Request
import Std.Time.DateTime.Timestamp

/-! The program: commands on the files of the machine. -/

set_option autoImplicit false

namespace Companion.Main

/-- A failed operation by its cause. -/
def causeOf : IO.Error → FileError
  | .noFileOrDirectory .. => .notFound
  | .alreadyExists .. => .alreadyExists
  | e => .other (toString e)

def attempt {α : Type} (action : IO α) : IO (Except FileError α) := do
  try
    return .ok (← action)
  catch e =>
    return .error (causeOf e)

/-- Files of the machine, seen from the current directory. The empty path leads nowhere. -/
def machine : Host IO where
  kind? path := do
    if path.isEmpty then return none
    match ← attempt ((← IO.currentDir) / path).metadata with
    | .ok found => return some (if found.type == .dir then .directory else .file)
    | .error _ => return none
  read path := do
    if path.isEmpty then return .error .notFound
    attempt (IO.FS.readFile ((← IO.currentDir) / path))
  list path := attempt do
    return ((← ((← IO.currentDir) / path).readDir).map (·.fileName)).toList
  makeDir path := do
    if path.isEmpty then return .ok ()
    attempt (IO.FS.createDirAll ((← IO.currentDir) / path))
  write path text := do
    if path.isEmpty then return .error .notFound
    attempt (IO.FS.writeFile ((← IO.currentDir) / path) text)
  now := return (← Std.Time.Timestamp.now).toSecondsSinceUnixEpoch.toInt

/-- The exit code of arguments that make no sense. -/
def usageExitCode : UInt32 := 2

def run (arguments : List String) : IO UInt32 := do
  match Request.ofArguments version arguments with
  | .error e =>
    IO.eprintln ("error: " ++ e.message ++ "\n\n" ++
      "For more information, try '" ++ Help.programName ++ " --help'.")
    return usageExitCode
  | .ok (.explain text) =>
    IO.print text
    return 0
  | .ok (.run command) =>
    let result ← command.execute machine
    IO.print result.output
    IO.eprint result.errors
    return result.exitCode.toUInt32

end Companion.Main

def main (arguments : List String) : IO UInt32 := Companion.Main.run arguments

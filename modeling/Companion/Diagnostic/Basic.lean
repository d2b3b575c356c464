import Companion.Json.Basic
import Companion.Text.Template

/-! What is reported about a declaration, and where. -/

set_option autoImplicit false

namespace Companion

inductive Severity where
  | info
  | warning
  | error
  deriving DecidableEq, Repr, Inhabited

def Severity.name : Severity → String
  | info => "info"
  | warning => "warning"
  | error => "error"

/-- A place in a declaration file. Lines and columns count from one; line zero is unknown. -/
structure Location where
  file : Option String
  declaration : Option String
  member : Option String
  line : Nat
  column : Nat
  deriving DecidableEq, Repr, Inhabited

namespace Location

/-- The same place, narrowed to a member. -/
def withMember (l : Location) (member : String) : Location := { l with member := some member }

def owner (l : Location) : String :=
  match l.declaration, l.member with
  | some declaration, some member =>
    " (declaration " ++ declaration ++ ", member " ++ member ++ ")"
  | some declaration, none => " (declaration " ++ declaration ++ ")"
  | none, _ => ""

def render (l : Location) : String :=
  l.file.getD "<input>" ++
    (if 0 < l.line then ":" ++ toString l.line ++ ":" ++ toString l.column else "") ++ l.owner

end Location

/-- A message template with what fills its holes. -/
structure Diagnostic where
  severity : Severity
  template : String
  arguments : List String
  location : Location
  deriving DecidableEq, Repr, Inhabited

namespace Diagnostic

def message (d : Diagnostic) : String := Template.substitute d.template d.arguments

def isError (d : Diagnostic) : Bool := d.severity == .error

def render (d : Diagnostic) : String :=
  d.severity.name ++ ": " ++ d.message ++ "\n  --> " ++ d.location.render

end Diagnostic

/-- Everything reported, in order. -/
abbrev Diagnostics := List Diagnostic

namespace Diagnostics

def errorCount (ds : Diagnostics) : Nat := ds.countP Diagnostic.isError

def hasErrors (ds : Diagnostics) : Bool := 0 < errorCount ds

/-- Each diagnostic in full, and how many there are. -/
def report (ds : Diagnostics) : String :=
  String.join (ds.map fun d => d.render ++ "\n") ++
    toString ds.length ++ " diagnostic(s), " ++ toString (errorCount ds) ++ " error(s)\n"

end Diagnostics

/-! ### JSON -/

/-- Unknown parts are left out. -/
def Location.toJson (l : Location) : Json :=
  let known (name : String) (part : Option String) := (part.map fun s => (name, Json.text s)).toList
  .object <| known "file" l.file ++ known "declaration" l.declaration ++
    known "member" l.member ++ [("line", .integer l.line), ("column", .integer l.column)]

def Diagnostic.toJson (d : Diagnostic) : Json := .object [
  ("severity", .text d.severity.name), ("template", .text d.template),
  ("arguments", .array (d.arguments.map .text)), ("location", d.location.toJson)]

end Companion

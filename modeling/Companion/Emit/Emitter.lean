import Companion.Emit.Artifact
import Companion.Text.Basic

/-! Units of code from steps that open and close blocks and fill them. The top level is a module. -/

set_option autoImplicit false

namespace Companion

inductive Step where
  /-- A path to bring into scope. Each is written once, above everything else. -/
  | use (path : String)
  /-- A block behind a text that opens it. -/
  | enter (kind : BlockKind) (opener : String)
  | leave
  | statement (text : String)
  | field (text : String)
  /-- An attribute or comment before an item. -/
  | note (text : String)
  | item (text : String)
  | blank
  deriving DecidableEq, Repr

/-- A unit under construction: lines and open blocks are listed from the latest on. -/
structure Emitter where
  paths : List String
  lines : List String
  blocks : List BlockKind
  /-- The block just closed, if nothing came after it. -/
  lastClosed : Option BlockKind
  deriving DecidableEq, Repr

namespace Emitter

def empty : Emitter := ⟨[], [], [], none⟩

/-- The innermost open block. -/
def current (e : Emitter) : BlockKind := e.blocks.headD .module

/-- A line of text at a depth; a blank one is left empty. -/
def indentLine (depth : Nat) (line : String) : String :=
  if (Text.trim line).isEmpty then ""
  else String.ofList (List.replicate (4 * depth) ' ') ++ line

/-- Add the lines of a text at the depth of the open blocks. -/
def write (e : Emitter) (text : String) : Emitter :=
  { e with lines := ((Text.lines text).map (indentLine e.blocks.length)).reverse ++ e.lines }

/-- Insert into a sorted list, unless it is there. -/
def insertSorted (path : String) : List String → List String
  | [] => [path]
  | other :: others =>
    if path = other then other :: others
    else if path < other then path :: other :: others
    else other :: insertSorted path others

def withoutTrailing (c : Char) (text : String) : String :=
  Text.onChars (Chars.trimEnd (· == c)) text

def use (e : Emitter) (path : String) : Emitter :=
  { e with paths := insertSorted (withoutTrailing ';' (Text.trim path)) e.paths }

/-- The line that opens a block. -/
def opening (opener : String) : String :=
  let opener := Text.trim opener
  if opener.isEmpty then "\x7b" else opener ++ " \x7b"

def allow (e : Emitter) (what : Construct) : Except EmitError Unit :=
  if what.allowedIn e.current then .ok () else .error (.misplaced what e.current)

def enter (e : Emitter) (kind : BlockKind) (opener : String) : Except EmitError Emitter := do
  e.allow (.block kind)
  if kind = .elseBlock then
    if e.lastClosed ≠ some .ifBlock then throw .danglingElse
    let lines := match e.lines with
      | last :: lines => (last ++ " else \x7b") :: lines
      | [] => []
    return { e with lines, blocks := kind :: e.blocks, lastClosed := none }
  else
    let e := e.write (opening opener)
    return { e with blocks := kind :: e.blocks, lastClosed := none }

def leave (e : Emitter) : Except EmitError Emitter :=
  match e.blocks with
  | [] => .error .unexpectedEnd
  | kind :: blocks => .ok { ({ e with blocks }).write "\x7d" with lastClosed := some kind }

/-- An empty line, unless there is one already or nothing before it. -/
def blank (e : Emitter) : Emitter :=
  match e.lines with
  | [] => e
  | last :: _ => if last.isEmpty then e else { e with lines := "" :: e.lines }

/-- Do one step; a step that is not allowed has no effect. -/
def step (e : Emitter) : Step → Except EmitError Emitter
  | .use path => .ok (e.use path)
  | .enter kind opener => e.enter kind opener
  | .leave => e.leave
  | .statement text => do
    e.allow .statement
    return { e.write text with lastClosed := none }
  | .field text => do
    e.allow .field
    return e.write (withoutTrailing ',' text ++ ",")
  | .note text => do
    e.allow .note
    return e.write text
  | .item text => do
    e.allow .item
    return { e.write text with lastClosed := none }
  | .blank => .ok e.blank

/-- The unit, once every block is closed. -/
def finish (e : Emitter) : Except EmitError String :=
  if !e.blocks.isEmpty then .error (.unbalanced e.blocks.length)
  else
    let imports := String.join (e.paths.map fun path => "use " ++ path ++ ";\n")
    let body := withoutTrailing '\n' ("\n".intercalate e.lines.reverse)
    .ok (imports ++ (if e.paths.isEmpty then "" else "\n") ++ body ++ "\n")

/-- The unit of a sequence of steps. -/
def unit (steps : List Step) : Except EmitError String := do
  (← steps.foldlM step empty).finish

end Emitter

end Companion

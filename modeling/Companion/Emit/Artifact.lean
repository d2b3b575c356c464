import Companion.Declaration.Basic
import Companion.Text.Basic

/-! Generated units, each of which is filled once and written once. -/

set_option autoImplicit false

/-! ### What can go wrong when code is put together and written -/

namespace Companion

inductive BlockKind where
  | module
  | struct
  | impl
  | function
  | ifBlock
  | elseBlock
  | plain
  deriving DecidableEq, Repr

namespace BlockKind

def description : BlockKind → String
  | module => "a module"
  | struct => "a struct"
  | impl => "an impl block"
  | function => "a function"
  | ifBlock => "an if block"
  | elseBlock => "an else block"
  | plain => "a block"

/-- Whether statements can stand directly in the block. -/
def holdsStatements : BlockKind → Bool
  | function | ifBlock | elseBlock | plain => true
  | module | struct | impl => false

/-- Whether items can. -/
def holdsItems : BlockKind → Bool
  | module | impl => true
  | _ => false

/-- Whether a block of another kind can. -/
def holds (outer inner : BlockKind) : Bool :=
  match inner with
  | module | struct | impl => outer == module
  | function => outer.holdsItems
  | ifBlock | elseBlock | plain => outer.holdsStatements

end BlockKind

/-- What is put into blocks. -/
inductive Construct where
  | block (kind : BlockKind)
  | statement
  | field
  /-- An attribute or comment before an item. -/
  | note
  | item
  deriving DecidableEq, Repr

namespace Construct

def description : Construct → String
  | block kind => kind.description
  | statement => "a statement"
  | field => "a field"
  | note => "an attribute"
  | item => "an item"

def allowedIn (outer : BlockKind) : Construct → Bool
  | block kind => outer.holds kind
  | statement => outer.holdsStatements
  | field => outer == .struct
  | note => outer.holdsItems || outer == .struct
  | item => outer.holdsItems

end Construct

inductive EmitError where
  | misplaced (what : Construct) (outer : BlockKind)
  | danglingElse
  | unexpectedEnd
  | unbalanced (count : Nat)
  | alreadyPopulated (artifact : String)
  | notPopulated (artifact : String)
  | alreadyWritten (artifact : String)
  | sink (file reason : String)
  deriving DecidableEq, Repr

namespace EmitError

def message : EmitError → String
  | misplaced what outer => what.description ++ " is not allowed inside " ++ outer.description
  | danglingElse => "`else` must directly follow an `if` block"
  | unexpectedEnd => "end of block without a matching begin"
  | unbalanced count => toString count ++ " block(s) left open"
  | alreadyPopulated name => "artifact " ++ name ++ " was already populated"
  | notPopulated name => "artifact " ++ name ++ " has no content"
  | alreadyWritten name => "artifact " ++ name ++ " was already written"
  | sink file reason => "failed to write " ++ file ++ ": " ++ reason

/-- Whether the whole batch ends; a failure to write concerns one artifact alone. -/
def isFatal : EmitError → Bool
  | sink .. => false
  | _ => true

end EmitError

/-! ### Units that are filled and written once -/

/-- Where units are written to: accepts the contents of a file, or says why not. -/
abbrev Sink (m : Type → Type) := (file contents : String) → m (Except String Unit)

inductive ArtifactState where
  | empty
  | populated (content : String)
  | written (content : String)
  /-- The sink refused it; it is not tried again. -/
  | failed (content : String)
  deriving DecidableEq, Repr, Inhabited

namespace ArtifactState

def name : ArtifactState → String
  | empty => "Empty"
  | populated _ => "Populated"
  | written _ => "Written"
  | failed _ => "Failed"

def content : ArtifactState → String
  | empty => ""
  | populated c | written c | failed c => c

end ArtifactState

/-- What a sink was handed, and whether it took it. -/
structure Attempt where
  file : String
  contents : String
  isAccepted : Bool
  deriving DecidableEq, Repr

/-- A sink that also keeps what it was handed, in order. -/
def Sink.recorded {σ : Type} (sink : Sink (StateM σ)) : Sink (StateM (σ × List Attempt)) :=
  fun file contents (s, attempts) =>
    let (verdict, s) := (sink file contents).run s
    (verdict, s, attempts ++ [⟨file, contents, verdict.isOk⟩])

structure Artifact where
  kind : ArtifactKind
  declaration : String
  outputName : String
  fileName : String
  state : ArtifactState
  deriving DecidableEq, Repr

namespace Artifact

def populate (a : Artifact) (content : String) : Except EmitError Artifact :=
  match a.state with
  | .empty => .ok { a with state := .populated content }
  | _ => .error (.alreadyPopulated a.outputName)

/-- What can be handed to a sink. -/
def ready (a : Artifact) : Except EmitError String :=
  match a.state with
  | .empty => .error (.notPopulated a.outputName)
  | .populated content => .ok content
  | .written _ | .failed _ => .error (.alreadyWritten a.outputName)

/-- Hand the content to a sink, and the artifact after that. -/
def write {m : Type → Type} [Monad m] (a : Artifact) (sink : Sink m) :
    m (Except EmitError Unit × Artifact) := do
  match a.ready with
  | .error e => return (.error e, a)
  | .ok content =>
    match ← sink a.fileName content with
    | .ok () => return (.ok (), { a with state := .written content })
    | .error reason =>
      return (.error (.sink a.fileName reason), { a with state := .failed content })

end Artifact

/-- Files in memory by their names. -/
structure MemorySink where
  files : Dictionary String
  deriving DecidableEq, Repr, Inhabited

namespace MemorySink

def empty : MemorySink := ⟨.empty⟩

def write (s : MemorySink) (name contents : String) : MemorySink :=
  ⟨s.files.insert name contents⟩

def get? (s : MemorySink) (name : String) : Option String := s.files.get? name

/-- A sink that refuses some files. -/
def sink (refusal? : String → Option String) : Sink (StateM MemorySink) := fun name contents => do
  match refusal? name with
  | some reason => return .error reason
  | none =>
    modify (·.write name contents)
    return .ok ()

end MemorySink

end Companion

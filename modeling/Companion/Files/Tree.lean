import Companion.Emit.Artifact
import Companion.Files.Path
import Companion.Text.Basic

/-! Files and directories in memory. Paths lead from one directory, which is always there and
cannot be left. -/

set_option autoImplicit false

/-! ### What a program needs from outside: files, directories and the time -/

namespace Companion

inductive FileKind where
  | file
  | directory
  deriving DecidableEq, Repr

/-- Why something cannot be done with a file or directory. -/
inductive FileError where
  | notFound
  | alreadyExists
  | notDirectory
  | isDirectory
  | other (reason : String)
  deriving DecidableEq, Repr, Inhabited

/-- The words of the operating system. -/
def FileError.message : FileError → String
  | notFound => "No such file or directory (os error 2)"
  | alreadyExists => "File exists (os error 17)"
  | notDirectory => "Not a directory (os error 20)"
  | isDirectory => "Is a directory (os error 21)"
  | other reason => reason

/-- Operations on paths, in the order of effects of `m`. -/
structure Host (m : Type → Type) where
  /-- What a path leads to, if it leads anywhere. -/
  kind? : String → m (Option FileKind)
  /-- The text of a file. -/
  read : String → m (Except FileError String)
  /-- The names in a directory, in any order. -/
  list : String → m (Except FileError (List String))
  /-- Make a directory and all that lead to it. It may be there already. -/
  makeDir : String → m (Except FileError Unit)
  /-- Make a file in a directory, or give it a new text. -/
  write : String → String → m (Except FileError Unit)
  /-- Seconds since the beginning of 1970. -/
  now : m Int

namespace Host

variable {m : Type → Type} [Monad m]

def exists? (h : Host m) (path : String) : m Bool := return (← h.kind? path).isSome

def isFile (h : Host m) (path : String) : m Bool := return (← h.kind? path) == some .file

def isDir (h : Host m) (path : String) : m Bool := return (← h.kind? path) == some .directory

end Host

end Companion

/-! ### Units in files -/

namespace Companion.Host

variable {m : Type → Type} [Monad m]

/-- Write a file, after the directories that lead to it. -/
def writeInto (h : Host m) (dir name text : String) : ExceptT FileError m Unit := do
  let path := Path.join dir name
  match Path.parent? path with
  | some parent => ExceptT.mk (h.makeDir parent)
  | none => pure ()
  ExceptT.mk (h.write path text)

/-- Where units become files under a directory. -/
def sink (h : Host m) (dir : String) : Sink m := fun name text =>
  Except.mapError FileError.message <$> (h.writeInto dir name text).run

end Companion.Host

/-! ### Directories in memory -/

namespace Companion

inductive FileEntry where
  | file (text : String)
  | directory
  deriving DecidableEq, Repr, Inhabited

def FileEntry.kind : FileEntry → FileKind
  | file _ => .file
  | directory => .directory

/-- What there is, by the names that lead to it with slashes between them. -/
structure FileTree where
  entries : Dictionary FileEntry
  deriving DecidableEq, Repr, Inhabited

namespace FileTree

def empty : FileTree := ⟨.empty⟩

/-- A place by the names that lead to it. -/
abbrev Place := List String

def key (place : Place) : String := "/".intercalate place

def entry? (t : FileTree) (place : Place) : Option FileEntry :=
  if place.isEmpty then some .directory else t.entries.get? (key place)

def put (t : FileTree) (place : Place) (e : FileEntry) : FileTree :=
  ⟨t.entries.insert (key place) e⟩

/-- The names on a path; an empty one at the end stands for a slash there. -/
def steps (path : String) : List String :=
  (Chars.splitAll '/' path.toList).map String.ofList

/-- Whether a step stays where it is. -/
def isIdle (step : String) : Bool := step.isEmpty || step == "."

/-- The place that a path leads to from a directory, and whether there is anything. What is there
can be missing only at the end of the path. -/
def follow (t : FileTree) (place : Place) :
    List String → Except FileError (Place × Option FileEntry)
  | [] => .ok (place, t.entry? place)
  | step :: others =>
    if isIdle step then follow t place others
    else if step = ".." then
      if place.isEmpty then .error .notFound else follow t place.dropLast others
    else
      let next := place ++ [step]
      match t.entry? next with
      | some .directory => follow t next others
      | some (.file text) =>
        if others.isEmpty then .ok (next, some (.file text)) else .error .notDirectory
      | none => if others.isEmpty then .ok (next, none) else .error .notFound

def resolve (t : FileTree) (path : String) : Except FileError (Place × Option FileEntry) :=
  if path.isEmpty || Path.isAbsolute path then .error .notFound else t.follow [] (steps path)

def kind? (t : FileTree) (path : String) : Option FileKind :=
  match t.resolve path with
  | .ok (_, e) => e.map FileEntry.kind
  | .error _ => none

def read (t : FileTree) (path : String) : Except FileError String := do
  match (← t.resolve path).2 with
  | some (.file text) => .ok text
  | some .directory => .error .isDirectory
  | none => .error .notFound

/-- The files and directories directly at a place. -/
def children (t : FileTree) (place : Place) : List String :=
  let start := if place.isEmpty then "" else key place ++ "/"
  t.entries.keys.filterMap fun k =>
    (Text.afterPrefix? start k).filter fun name => !name.isEmpty && !name.toList.contains '/'

def list (t : FileTree) (path : String) : Except FileError (List String) := do
  match ← t.resolve path with
  | (place, some .directory) => .ok (t.children place)
  | (_, some (.file _)) => .error .notDirectory
  | (_, none) => .error .notFound

/-- Make the directories on a path from a place. Those made before a failure stay. -/
def makeFrom (t : FileTree) (place : Place) : List String → Except FileError Unit × FileTree
  | [] => (.ok (), t)
  | step :: others =>
    if isIdle step then makeFrom t place others
    else if step = ".." then makeFrom t place.dropLast others
    else
      let next := place ++ [step]
      match t.entry? next with
      | some .directory => makeFrom t next others
      | some (.file _) =>
        (.error (if others.all String.isEmpty then .alreadyExists else .notDirectory), t)
      | none => makeFrom (t.put next .directory) next others

def makeDir (t : FileTree) (path : String) : Except FileError Unit × FileTree :=
  if Path.isAbsolute path then (.error .notFound, t) else t.makeFrom [] (steps path)

def write (t : FileTree) (path text : String) : Except FileError FileTree := do
  match ← t.resolve path with
  | (_, some .directory) => .error .isDirectory
  | (place, _) => .ok (t.put place (.file text))

/-- Take away a file, or a directory with all in it. -/
def remove (t : FileTree) (path : String) : Option FileTree :=
  match t.resolve path with
  | .ok (place, some _) =>
    some ⟨⟨t.entries.entries.filter fun (k, _) =>
      k ≠ key place && !Text.startsWith (key place ++ "/") k⟩⟩
  | _ => none

/-- All files with their texts. -/
def files (t : FileTree) : List (String × String) :=
  t.entries.entries.filterMap fun (k, e) =>
    match e with
    | .file text => some (k, text)
    | .directory => none

/-- Access to a tree, at a time that stands still. -/
def host (time : Int) : Host (StateM FileTree) where
  kind? path := return (← get).kind? path
  read path := return (← get).read path
  list path := return (← get).list path
  makeDir path := modifyGet fun t => t.makeDir path
  write path text := modifyGet fun t =>
    match t.write path text with
    | .ok t' => (.ok (), t')
    | .error e => (.error e, t)
  now := return time

end FileTree

end Companion

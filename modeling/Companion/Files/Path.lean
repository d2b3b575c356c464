import Companion.Text.Basic

/-! Paths of files as texts.

Parts are set off by slashes. Empty parts and dots say nothing, save a dot at the start, which
stands for the current directory.
-/

set_option autoImplicit false

namespace Companion.Path

/-- What a path starts from, which is the root, a dot or nothing, and the rest. -/
def split (path : List Char) : List Char × List Char :=
  match path with
  | '/' :: rest => (['/'], rest)
  | ['.'] => (['.'], [])
  | '.' :: '/' :: rest => (['.'], '/' :: rest)
  | _ => ([], path)

/-- Drop slashes and dots that say nothing before the first part. -/
def dropFront : List Char → List Char
  | '/' :: rest => dropFront rest
  | '.' :: '/' :: rest => dropFront rest
  | ['.'] => []
  | cs => cs

/-- Drop slashes and dots that say nothing after the last part. -/
def dropBack (cs : List Char) : List Char := (dropFront cs.reverse).reverse

/-- The start, if there is one, and the parts. -/
def components (path : String) : List String :=
  let (start, rest) := split path.toList
  let parts := (Chars.splitAll '/' rest).filter fun part => part ≠ [] ∧ part ≠ ['.']
  ((if start.isEmpty then [] else [start]) ++ parts).map String.ofList

/-- Whether two texts are one path. -/
def same (a b : String) : Bool := components a == components b

def isAbsolute (path : String) : Bool := Text.startsWith "/" path

/-- A path seen from a directory. -/
def join (dir path : String) : String :=
  if isAbsolute path then path
  else if dir.isEmpty || Text.endsWith "/" dir then dir ++ path
  else dir ++ "/" ++ path

/-- The directory of a path; the root and the empty path have none. -/
def parent? (path : String) : Option String :=
  let (start, rest) := split path.toList
  match dropBack rest with
  | [] => if start = ['.'] then some "" else none
  | rest =>
    some (String.ofList (start ++ dropBack (rest.reverse.dropWhile (· ≠ '/')).reverse))

/-- The directory of a path, which is the empty path if there is none. -/
def parent (path : String) : String := (parent? path).getD ""

/-- The last part, unless it is a start or leads upwards. -/
def fileName? (path : String) : Option String :=
  (components path).getLast?.filter fun name => name ≠ "/" ∧ name ≠ "." ∧ name ≠ ".."

/-- Drop parts from the front. -/
def dropParts : Nat → List Char → List Char
  | 0, rest => dropFront rest
  | n + 1, rest => dropParts n ((dropFront rest).dropWhile (· ≠ '/'))

/-- The path as seen from a directory, if it is in there. -/
def relativeTo? (base path : String) : Option String := do
  let (start, rest) := split path.toList
  let _ ← (components base).isPrefixOf? (components path)
  let depth := (components base).length
  let text :=
    if depth = 0 then start ++ dropBack rest
    else dropBack (dropParts (if start.isEmpty then depth else depth - 1) rest)
  return String.ofList text

/-- The path, its directory, the directory of that and so on. -/
def ancestors (path : String) : List String :=
  go path (path.length + 1)
where
  go (path : String) : Nat → List String
    | 0 => []
    | fuel + 1 =>
      path :: match parent? path with
        | some dir => go dir fuel
        | none => []

/-- The order of lists of texts by their first difference. -/
def precedes : List String → List String → Bool
  | [], _ => true
  | _ :: _, [] => false
  | a :: others, b :: rest => a < b || (a == b && precedes others rest)

/-- Paths are ordered part by part. -/
def before (a b : String) : Bool := precedes (components a) (components b)

/-- Paths are at most this many bytes long, so directories are no more than this deep. -/
def lengthLimit : Nat := 4096

end Companion.Path

import Companion.Declaration.Basic
import Companion.Diagnostic.Basic
import Companion.Text.Basic

/-! Declarations with the file they come from. -/

set_option autoImplicit false

namespace Companion

/-! ### Where declarations and their members stand in a file

Entries are found by lines of the form `key: value`, with or without the dash of a list. Columns
count bytes from one.
-/

/-- The lines of a declaration file. -/
structure Outline where
  lines : List (List Char)
  deriving Inhabited

namespace Outline

def ofText (text : String) : Outline := ⟨Chars.lines text.toList⟩

/-- Number of bytes of the blanks that a line starts with, and what follows them. -/
def indentation (line : List Char) : Nat × List Char :=
  (Chars.byteSize (line.takeWhile Chars.isBlank), line.dropWhile Chars.isBlank)

/-- The column at which an entry's key stands, after the dash of a list if there is one, and the
text from there on. -/
def entryStart (line : List Char) : Bool × Nat × List Char :=
  let (indent, body) := indentation line
  match ['-', ' '].isPrefixOf? body with
  | some rest =>
    let (more, key) := indentation rest
    (true, indent + 2 + more + 1, key)
  | none => (false, indent + 1, body)

def isQuote (c : Char) : Bool := c == '"' || c == '\''

/-- The value after a key's colon, without a comment, blanks and quotes around it. -/
def plainValue (cs : List Char) : List Char :=
  Chars.trim isQuote (Chars.trim Chars.isBlank (Chars.before '#' cs))

/-- The column of a key if the line gives it the value. -/
def entryColumn? (key value line : List Char) : Option Nat := do
  let (_, column, body) := entryStart line
  let rest ← key.isPrefixOf? body
  let rest ← [':'].isPrefixOf? rest
  if plainValue rest = value then some column else none

/-- Whether a line ends the entry at a column: it starts a list entry there, or stands further to
the left. -/
def isSibling (line : List Char) (column : Nat) : Bool :=
  match entryStart line with
  | (true, start, _) => start == column
  | (false, start, body) => !body.isEmpty && start < column - 2

/-- Entries that give the key the value, each as the index of its line and its column. -/
def entries (key value : List Char) (first : Nat) : List (List Char) → List (Nat × Nat)
  | [] => []
  | line :: others =>
    match entryColumn? key value line with
    | some column => (first, column) :: entries key value (first + 1) others
    | none => entries key value (first + 1) others

/-- The first entry of those furthest to the left. -/
def leftmost? : List (Nat × Nat) → Option (Nat × Nat)
  | [] => none
  | entry :: others =>
    match leftmost? others with
    | some best => if entry.2 ≤ best.2 then some entry else some best
    | none => some entry

/-- Line and column, from zero and one, of the entry that names a declaration. -/
def declarationEntry? (o : Outline) (declaration : String) : Option (Nat × Nat) :=
  leftmost? (entries "name".toList declaration.toList 0 o.lines)

/-- The lines of the declaration after the one that names it. -/
def bodyLines (o : Outline) (start column : Nat) : List (List Char) :=
  (o.lines.drop (start + 1)).takeWhile fun line => !isSibling line column

/-- Keys by which members are named. -/
def memberKeys : List (List Char) := ["accessor".toList, "field".toList, "name".toList]

/-- The first line that names the member. -/
def memberEntry? (member : List Char) (first : Nat) : List (List Char) → Option (Nat × Nat)
  | [] => none
  | line :: others =>
    match memberKeys.findSome? fun key => entryColumn? key member line with
    | some column => some (first, column)
    | none => memberEntry? member (first + 1) others

/-- Line and column of a declaration. -/
def declarationPosition? (o : Outline) (declaration : String) : Option (Nat × Nat) :=
  (o.declarationEntry? declaration).map fun (line, column) => (line + 1, column)

/-- Line and column of the first entry in a declaration that names the member. -/
def memberPosition? (o : Outline) (declaration member : String) : Option (Nat × Nat) := do
  let (start, column) ← o.declarationEntry? declaration
  let (line, column) ← memberEntry? member.toList (start + 1) (o.bodyLines start column)
  return (line + 1, column)

end Outline

/-! ### Sources -/

structure DeclarationSource where
  path : Option String
  outline : Outline
  declarations : List Declaration
  deriving Inhabited

/-- A text that lists no declarations, with its file if it comes from one. -/
structure DeclarationError where
  path : Option String
  deriving DecidableEq, Repr

def DeclarationError.message (e : DeclarationError) : String :=
  let cause := "Declaration parse error: " ++ Text.unexplained
  match e.path with
  | some path => "Declaration parse error: " ++ path ++ ": " ++ cause
  | none => cause

namespace DeclarationSource

/-- A location that is known by names alone. -/
def unplaced (s : DeclarationSource) (declaration : String) : Location :=
  ⟨s.path, some declaration, none, 0, 0⟩

def place (l : Location) : Option (Nat × Nat) → Location
  | some (line, column) => { l with line, column }
  | none => l

def locate (s : DeclarationSource) (declaration : String) : Location :=
  place (s.unplaced declaration) (s.outline.declarationPosition? declaration)

/-- The location of a member, or of its declaration if the member is not found in it. -/
def locateMember (s : DeclarationSource) (declaration member : String) : Location :=
  place ((s.locate declaration).withMember member)
    (s.outline.memberPosition? declaration member)

end DeclarationSource

end Companion

/-! Places in a YAML text and how they move, and the tokens that stand between them. -/

set_option autoImplicit false

namespace Companion.Yaml

def isBreak (c : Char) : Bool :=
  c == '\r' || c == '\n' || c == '\u0085' || c == '\u2028' || c == '\u2029'

def isBlank (c : Char) : Bool := c == ' ' || c == '\t'

/-- Characters of the names of anchors and of the handles of tags. -/
def isNameChar (c : Char) : Bool := c.isAlphanum || c == '_' || c == '-'

/-- What is left of a text, and where it starts. -/
structure Cursor where
  rest : List Char
  index : Nat
  line : Nat
  column : Nat
  deriving Inhabited

namespace Cursor

def ofChars (cs : List Char) : Cursor := ⟨cs, 0, 0, 0⟩

def head? (c : Cursor) : Option Char := c.rest.head?

/-- The character some places on. -/
def ahead? (c : Cursor) (offset : Nat) : Option Char := c.rest[offset]?

def isAt (c : Cursor) (expected : Char) : Bool := c.head? == some expected

def isAtEnd (c : Cursor) : Bool := c.rest.isEmpty

/-- Whether some places on there is a blank, a line break or the end. -/
def isSeparated (c : Cursor) (offset : Nat) : Bool :=
  match c.ahead? offset with
  | some x => isBlank x || isBreak x
  | none => true

def atBlank (c : Cursor) : Bool := c.head?.any isBlank

def atBreak (c : Cursor) : Bool := c.head?.any isBreak

/-- At a line break or the end. -/
def atLineEnd (c : Cursor) : Bool := c.isAtEnd || c.atBreak

/-- Move past a character on the same line. -/
def skip (c : Cursor) : Cursor :=
  match c.rest with
  | [] => c
  | _ :: rest => ⟨rest, c.index + 1, c.line, c.column + 1⟩

def skipN (c : Cursor) : Nat → Cursor
  | 0 => c
  | n + 1 => c.skip.skipN n

/-- A line break as scalars hold it, and what follows it. -/
def takeBreak (c : Cursor) : List Char × Cursor :=
  match c.rest with
  | '\r' :: '\n' :: rest => (['\n'], ⟨rest, c.index + 2, c.line + 1, 0⟩)
  | x :: rest =>
    if isBreak x then
      ([if x = '\u2028' ∨ x = '\u2029' then x else '\n'], ⟨rest, c.index + 1, c.line + 1, 0⟩)
    else ([], c)
  | [] => ([], c)

def skipBreak (c : Cursor) : Cursor := c.takeBreak.2

/-- Characters of a class, and what follows them. -/
def takeWhile (p : Char → Bool) (c : Cursor) : List Char × Cursor :=
  let taken := c.rest.takeWhile p
  (taken, ⟨c.rest.dropWhile p, c.index + taken.length, c.line, c.column + taken.length⟩)

def skipWhile (p : Char → Bool) (c : Cursor) : Cursor := (c.takeWhile p).2

def skipBlanks (c : Cursor) : Cursor := c.skipWhile isBlank

def skipToLineEnd (c : Cursor) : Cursor := c.skipWhile fun x => !isBreak x

/-- Skip blanks and a comment. -/
def skipComment (c : Cursor) : Cursor :=
  let c := c.skipBlanks
  if c.isAt '#' then c.skipToLineEnd else c

/-- Whether a line starts with three characters that begin or end a document. -/
def atDocumentMark (c : Cursor) (mark : Char) : Bool :=
  c.column == 0 && (c.rest.take 3 == [mark, mark, mark]) && c.isSeparated 3

def atDocumentBoundary (c : Cursor) : Bool := c.atDocumentMark '-' || c.atDocumentMark '.'

end Cursor

/-- Blanks and line breaks between parts of a scalar. -/
structure Gap where
  /-- Blanks on the line itself. -/
  blanks : List Char
  /-- The first line break. -/
  first : List Char
  /-- Line breaks after the first. -/
  others : List Char
  /-- Whether a line was broken. -/
  broken : Bool
  deriving Inhabited

namespace Gap

def empty : Gap := ⟨[], [], [], false⟩

/-- A line break is folded into a space, unless others follow it. -/
def fold (g : Gap) : List Char :=
  if !g.broken then g.blanks
  else if g.first = ['\n'] then (if g.others.isEmpty then [' '] else g.others)
  else g.first ++ g.others

/-- Take blanks and breaks. A blank for which `refuse` holds after a break is an error. -/
def read (refuse : Cursor → Bool) : Nat → Gap → Cursor → Option (Gap × Cursor)
  | 0, _, _ => none
  | fuel + 1, g, c =>
    match c.head? with
    | none => some (g, c)
    | some x =>
      if isBlank x then
        if g.broken then (if refuse c then none else read refuse fuel g c.skip)
        else read refuse fuel { g with blanks := g.blanks ++ [x] } c.skip
      else if isBreak x then
        let (text, rest) := c.takeBreak
        if g.broken then read refuse fuel { g with others := g.others ++ text } rest
        else read refuse fuel { g with blanks := [], first := text, broken := true } rest
      else some (g, c)

end Gap

end Companion.Yaml

/-! ### Tokens -/

namespace Companion.Yaml

/-- How a scalar is written. -/
inductive Style where
  | plain
  | singleQuoted
  | doubleQuoted
  | literal
  | folded
  deriving DecidableEq, Repr

/-- A tag by its bytes, which need not be those of a text. -/
structure Tag where
  bytes : List UInt8
  deriving DecidableEq, Repr, Inhabited

namespace Tag

def ofText (text : String) : Tag := ⟨text.toUTF8.toList⟩

/-- The mark that stands alone where there is no name. -/
def lone : Tag := ⟨[0x21]⟩

/-- Whether a tag belongs to the document alone. -/
def isLocal (tag : Tag) : Bool := tag.bytes.head? == some 0x21

/-- The name in a tag that belongs to the document, which is the mark if there is nothing else. A
tag whose bytes are those of no text has none. -/
def name? (tag : Tag) : Option String :=
  match tag.bytes with
  | 0x21 :: b :: rest => String.fromUTF8? ⟨(b :: rest).toArray⟩
  | [0x21] => some "!"
  | _ => none

def append (a b : Tag) : Tag := ⟨a.bytes ++ b.bytes⟩

end Tag

/-- Collections in block style have tokens for their starts and ends, which stand for changes of
indentation. -/
inductive Token where
  | streamEnd
  | version (major minor : Nat)
  | tagDirective (handle : String) (expansion : Tag)
  | documentStart
  | documentEnd
  | blockSequenceStart
  | blockMappingStart
  | blockEnd
  | flowSequenceStart
  | flowSequenceEnd
  | flowMappingStart
  | flowMappingEnd
  | blockEntry
  | flowEntry
  | key
  | value
  | aliasOf (anchor : String)
  | anchor (name : String)
  | tag (handle : String) (suffix : Tag)
  | scalar (style : Style) (text : String)
  deriving DecidableEq, Repr, Inhabited

end Companion.Yaml

/-! Lines, blanks and pieces of text.

The operations recurse on lists of characters (`Chars`); `Text` applies them to strings.
-/

set_option autoImplicit false

namespace Companion.Chars

/-- Unicode's `White_Space` characters. -/
def isBlank (c : Char) : Bool :=
  let n := c.toNat
  (9 ≤ n && n ≤ 13) || n == 0x20 || n == 0x85 || n == 0xA0 || n == 0x1680 ||
    (0x2000 ≤ n && n ≤ 0x200A) || n == 0x2028 || n == 0x2029 || n == 0x202F || n == 0x205F ||
    n == 0x3000

/-- Drop every leading character of the class. -/
def trimStart (p : Char → Bool) (cs : List Char) : List Char := cs.dropWhile p

/-- Drop every trailing character of the class. -/
def trimEnd (p : Char → Bool) (cs : List Char) : List Char := (cs.reverse.dropWhile p).reverse

/-- Drop every leading and every trailing character of the class. -/
def trim (p : Char → Bool) (cs : List Char) : List Char := trimEnd p (trimStart p cs)

/-- What precedes the first separator; all of the text if there is none. -/
def before (sep : Char) (cs : List Char) : List Char := cs.takeWhile (· ≠ sep)

/-- All pieces between separators; one more than there are separators. -/
def splitAll (sep : Char) : List Char → List (List Char)
  | [] => [[]]
  | c :: rest =>
    if c = sep then [] :: splitAll sep rest
    else
      match splitAll sep rest with
      | [] => [[c]]
      | piece :: pieces => (c :: piece) :: pieces

/-- Lines end at `\n` or `\r\n`; a final terminator opens no further line. -/
def lines : List Char → List (List Char)
  | [] => []
  | c :: rest =>
    if c = '\n' then [] :: lines rest
    else
      match rest with
      | [] => [[c]]
      | d :: _ =>
        match lines rest with
        | [] => [[c]]
        | line :: others => if c = '\r' ∧ d = '\n' then line :: others else (c :: line) :: others

/-- Replace each occurrence, left to right and without overlap; `skip` characters of the
occurrence found last are still to be dropped. -/
def replaceFrom (pattern replacement : List Char) : List Char → Nat → List Char
  | [], _ => []
  | _ :: rest, skip + 1 => replaceFrom pattern replacement rest skip
  | c :: rest, 0 =>
    if pattern.isPrefixOf (c :: rest) then
      replacement ++ replaceFrom pattern replacement rest (pattern.length - 1)
    else c :: replaceFrom pattern replacement rest 0

/-- Replace each occurrence of a non-empty pattern. -/
def replaceAll (pattern replacement cs : List Char) : List Char :=
  replaceFrom pattern replacement cs 0

/-- Whether the pattern occurs in the text. -/
def occurs (pattern : List Char) : List Char → Bool
  | [] => pattern.isEmpty
  | c :: rest => pattern.isPrefixOf (c :: rest) || occurs pattern rest

/-- The part after the last `::`, or `best` if there is none. -/
def lastSegment (best : List Char) : List Char → List Char
  | [] => best
  | [_] => best
  | c :: d :: rest =>
    if c = ':' ∧ d = ':' then lastSegment rest (d :: rest) else lastSegment best (d :: rest)

/-- Size in bytes of the UTF-8 form. -/
def byteSize (cs : List Char) : Nat := cs.foldl (fun size c => size + c.utf8Size) 0

end Companion.Chars

namespace Companion.Text

/-- A function on characters, applied to a string. -/
def onChars (f : List Char → List Char) (s : String) : String := String.ofList (f s.toList)

/-- The text without blanks at either end. -/
def trim (s : String) : String := onChars (Chars.trim Chars.isBlank) s

/-- The text without trailing blanks. -/
def trimEnd (s : String) : String := onChars (Chars.trimEnd Chars.isBlank) s

/-- The lines of a text without their terminators. -/
def lines (s : String) : List String := (Chars.lines s.toList).map String.ofList

/-- The text with each occurrence of a non-empty pattern replaced. -/
def replaceAll (pattern replacement s : String) : String :=
  onChars (Chars.replaceAll pattern.toList replacement.toList) s

def occurs (pattern s : String) : Bool := Chars.occurs pattern.toList s.toList

/-- The rest of the text after a prefix, if it has that prefix. -/
def afterPrefix? (start s : String) : Option String :=
  (start.toList.isPrefixOf? s.toList).map String.ofList

/-- The text before a suffix, if it has that suffix. -/
def beforeSuffix? (tail s : String) : Option String :=
  (tail.toList.reverse.isPrefixOf? s.toList.reverse).map fun cs => String.ofList cs.reverse

def startsWith (start s : String) : Bool := start.toList.isPrefixOf s.toList

def endsWith (tail s : String) : Bool := tail.toList.isSuffixOf s.toList

/-- The part after the last `::`, or the whole text. -/
def lastSegment (s : String) : String := onChars (fun cs => Chars.lastSegment cs cs) s

end Companion.Text

/-! ### Failures without a reason -/

namespace Companion.Text

/-- Readers of types, patterns and documents tell only that they failed; their messages have
this in the place of a reason. -/
def unexplained : String := "<detail>"

end Companion.Text

/-! ### Names of artifacts and fields, which follow from declared names -/

namespace Companion.Naming

/-- Each ASCII capital becomes its small letter, after an underscore unless it comes first. -/
def snakeChars : List Char → List Char
  | [] => []
  | c :: rest => c.toLower :: rest.flatMap fun d => if d.isUpper then ['_', d.toLower] else [d]

def snakeCase (name : String) : String := Text.onChars snakeChars name

/-- Prefixes that an accessor adds to the name of its field. -/
def accessorPrefixes : List String := ["get_", "is_", "has_"]

/-- The field that an accessor reads: its name without a conventional prefix, unless nothing
would be left. -/
def fieldOfAccessor (accessor : String) : String :=
  let stripped := accessorPrefixes.findSome? fun start =>
    (Text.afterPrefix? start accessor).filter (· ≠ "")
  stripped.getD accessor

end Companion.Naming

/-! ### Values under texts, listed in the order of the texts -/

namespace Companion

structure Dictionary (α : Type) where
  entries : List (String × α)
  deriving DecidableEq, Repr, Inhabited

namespace Dictionary

variable {α : Type}

def empty : Dictionary α := ⟨[]⟩

def get? (d : Dictionary α) (key : String) : Option α := d.entries.lookup key

def keys (d : Dictionary α) : List String := d.entries.map Prod.fst

/-- Put a value at its place among sorted entries, over one with the same key. -/
def place (key : String) (value : α) : List (String × α) → List (String × α)
  | [] => [(key, value)]
  | (other, known) :: entries =>
    if key = other then (key, value) :: entries
    else if key < other then (key, value) :: (other, known) :: entries
    else (other, known) :: place key value entries

def insert (d : Dictionary α) (key : String) (value : α) : Dictionary α :=
  ⟨place key value d.entries⟩

def erase (d : Dictionary α) (key : String) : Dictionary α :=
  ⟨d.entries.filter fun entry => entry.1 ≠ key⟩

/-- Of values with one key the last counts. -/
def ofList (entries : List (String × α)) : Dictionary α :=
  entries.foldl (fun d entry => d.insert entry.1 entry.2) empty

end Dictionary

end Companion

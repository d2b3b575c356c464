/-! Sets of characters as rows of spans.

A set that a standard lists is written as a text of hexadecimal numbers, which alternate between
the gap before a span and the span's length.
-/

set_option autoImplicit false

namespace Companion.Unicode

/-- The characters from one to another, both among them. -/
structure Span where
  first : Char
  last : Char
  deriving DecidableEq, Repr, Inhabited

/-- The character that follows another; no character stands for a surrogate. -/
def following (c : Char) : Char :=
  if c.toNat = 0xD7FF then Char.ofNat 0xE000 else Char.ofNat (c.toNat + 1)

def preceding (c : Char) : Char :=
  if c.toNat = 0xE000 then Char.ofNat 0xD7FF else Char.ofNat (c.toNat - 1)

def greatest : Char := Char.ofNat 0x10FFFF

namespace Span

def single (c : Char) : Span := ⟨c, c⟩

/-- The span between two characters, whichever comes first. -/
def between (c d : Char) : Span := if c ≤ d then ⟨c, d⟩ else ⟨d, c⟩

def contains (s : Span) (c : Char) : Bool := s.first ≤ c && c ≤ s.last

/-- Whether a span that begins no earlier leaves no code point before it; the surrogates are code
points. -/
def meets (s t : Span) : Bool := t.first.toNat ≤ s.last.toNat + 1

/-- The characters of both spans. -/
def common? (s t : Span) : Option Span :=
  let first := if s.first ≤ t.first then t.first else s.first
  let last := if s.last ≤ t.last then s.last else t.last
  if first ≤ last then some ⟨first, last⟩ else none

/-- What the spans, which rise, leave of this one. -/
def without (s : Span) : List Span → List Span
  | [] => [s]
  | t :: others =>
    if t.last < s.first then s.without others
    else if s.last < t.first then [s]
    else
      let before := if s.first < t.first then [⟨s.first, preceding t.first⟩] else []
      if t.last < s.last then before ++ without ⟨following t.last, s.last⟩ others else before

/-- The span and rising ones after it, with those made one that meet. -/
def coalesce (s : Span) : List Span → List Span
  | [] => [s]
  | t :: others =>
    if s.meets t then coalesce ⟨s.first, if s.last ≤ t.last then t.last else s.last⟩ others
    else s :: coalesce t others

/-- The spans between rising ones, from the end of this one on. Two of them that only surrogates
divide leave both their ends between them. -/
def gapsAfter (s : Span) : List Span → List Span
  | [] => if s.last < greatest then [⟨following s.last, greatest⟩] else []
  | t :: others => between (following s.last) (preceding t.first) :: gapsAfter t others

end Span

/-- A set of characters by its spans, in rising order. -/
structure Ranges where
  spans : List Span
  deriving DecidableEq, Repr, Inhabited

namespace Ranges

def empty : Ranges := ⟨[]⟩

def single (c : Char) : Ranges := ⟨[.single c]⟩

def range (first last : Char) : Ranges := ⟨[⟨first, last⟩]⟩

def contains (ranges : Ranges) (c : Char) : Bool := ranges.spans.any (·.contains c)

/-- The set that spans in rising order make up. -/
def ofRising : List Span → Ranges
  | [] => empty
  | s :: others => ⟨s.coalesce others⟩

def union (a b : Ranges) : Ranges :=
  ofRising (List.merge a.spans b.spans fun s t => s.first ≤ t.first)

def unions (sets : List Ranges) : Ranges := sets.foldl union empty

def inter (a b : Ranges) : Ranges := ⟨a.spans.flatMap fun s => b.spans.filterMap s.common?⟩

def diff (a b : Ranges) : Ranges := ⟨a.spans.flatMap fun s => s.without b.spans⟩

/-- The characters of one set alone. -/
def symmetricDiff (a b : Ranges) : Ranges := (a.union b).diff (a.inter b)

def complement (ranges : Ranges) : Ranges :=
  match ranges.spans with
  | [] => range (Char.ofNat 0) greatest
  | s :: others =>
    let before := if Char.ofNat 0 < s.first then [⟨Char.ofNat 0, preceding s.first⟩] else []
    ⟨before ++ s.gapsAfter others⟩

/-- Whether all characters are below 128. -/
def isAscii (ranges : Ranges) : Bool := ranges.spans.all (·.last.toNat < 128)

/-- The only character of a set that has no other. -/
def only? (ranges : Ranges) : Option Char :=
  match ranges.spans with
  | [s] => if s.first = s.last then some s.first else none
  | _ => none

/-! ### Runs -/

def hexDigit? (c : Char) : Option Nat :=
  if '0' ≤ c ∧ c ≤ '9' then some (c.toNat - 48)
  else if 'a' ≤ c ∧ c ≤ 'f' then some (c.toNat - 87)
  else none

/-- The numbers of a text; anything but a digit ends a number. -/
def numbers : List Char → Nat → List Nat
  | [], n => [n]
  | c :: rest, n =>
    match hexDigit? c with
    | some d => numbers rest (16 * n + d)
    | none => n :: numbers rest 0

/-- Spans from alternating gaps and lengths; `next` is the first code point not yet passed. -/
def spansFrom (next : Nat) : List Nat → List Span
  | gap :: length :: rest =>
    ⟨Char.ofNat (next + gap), Char.ofNat (next + gap + length - 1)⟩ ::
      spansFrom (next + gap + length) rest
  | _ => []

def ofRuns (text : String) : Ranges := ⟨spansFrom 0 (numbers text.toList 0)⟩

end Ranges

/-- Runs of sets by the names of each, which are written in small letters alone. -/
abbrev Catalogue := List (List String × String)

def Catalogue.find? (sets : Catalogue) (name : String) : Option Ranges :=
  (List.find? (fun (names, _) => names.contains name) sets).map fun (_, runs) => .ofRuns runs

end Companion.Unicode

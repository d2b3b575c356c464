import Companion.Unicode.Ranges

/-! The bytes of characters in UTF-8, and of the characters of a set. -/

set_option autoImplicit false

namespace Companion.Unicode

/-- The bytes from one to another, both among them. -/
abbrev ByteSpan := UInt8 × UInt8

namespace Bytes

/-- Parts of a span of code points in which each byte ranges by itself. The units are the numbers
of code points that the last byte, the last two and so on tell apart. -/
def aligned : List Nat → Nat → Nat → List (Nat × Nat)
  | [], first, last => [(first, last)]
  | unit :: units, first, last =>
    if first / unit = last / unit then [(first, last)]
    else
      let start := (first + unit - 1) / unit * unit
      let stop := (last + 1) / unit * unit
      let before := if first < start then [(first, start - 1)] else []
      let after := if stop ≤ last then [(stop, last)] else []
      before ++ (if start < stop then aligned units start (stop - 1) else []) ++ after

/-- The code points that have one byte, two and so on, but for the surrogates, with the units by
which they divide. -/
def lengths : List (Nat × Nat × List Nat) := [
  (0, 0x7F, []),
  (0x80, 0x7FF, [64]),
  (0x800, 0xD7FF, [64, 4096]),
  (0xE000, 0xFFFF, [64, 4096]),
  (0x10000, 0x10FFFF, [64, 4096, 262144])]

/-- Rows of byte spans that hold the bytes of exactly the characters of the span. -/
def rowsOfSpan (s : Span) : List (List ByteSpan) :=
  lengths.flatMap fun (least, greatest, units) =>
    let first := max least s.first.toNat
    let last := min greatest s.last.toNat
    if first ≤ last then
      (aligned units first last).map fun (first, last) =>
        (String.utf8EncodeChar (Char.ofNat first)).zip (String.utf8EncodeChar (Char.ofNat last))
    else []

end Bytes

/-- The bytes of characters, by what may come first and what may follow it: the bytes of a span
and what comes below them, before other spans. -/
inductive ByteTree where
  | leaf
  | branch (bytes : ByteSpan) (below others : ByteTree)
  deriving DecidableEq, Repr

namespace ByteTree

/-- Add a row, which shares its beginning with the row that was added last. -/
def insert : List ByteSpan → ByteTree → ByteTree
  | [], tree => tree
  | s :: row, leaf => branch s (insert row leaf) leaf
  | s :: row, branch t below others =>
    if s = t then branch t (insert row below) others
    else branch s (insert row leaf) (branch t below others)

def ofRanges (ranges : Ranges) : ByteTree :=
  (ranges.spans.flatMap Bytes.rowsOfSpan).foldl (fun tree row => insert row tree) leaf

/-- The number of spans that may come first. -/
def width : ByteTree → Nat
  | leaf => 0
  | branch _ _ others => width others + 1

/-- The number of spans at all depths. -/
def size : ByteTree → Nat
  | leaf => 0
  | branch _ below others => size below + size others + 1

/-- The number of rows. -/
def rows : ByteTree → Nat
  | leaf => 0
  | branch _ leaf others => rows others + 1
  | branch _ below others => rows below + rows others

/-- What may follow the spans, at all depths. -/
def belows : ByteTree → List ByteTree
  | leaf => []
  | branch _ leaf others => belows others
  | branch _ below others => below :: belows below ++ belows others

/-- The tree and the different ones in it. -/
def subtrees (tree : ByteTree) : List ByteTree := (tree :: tree.belows).eraseDups

end ByteTree

end Companion.Unicode

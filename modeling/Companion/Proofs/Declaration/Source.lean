import Companion.Declaration.Source
import Mathlib.Data.List.Basic
import Mathlib.Data.List.TakeWhile

/-! Where declarations and their members stand.

A declaration stands where the first of its lines does that are furthest to the left, and a member
on the first line behind it that names the member, unless another entry begins in between. The same
is found by indices into the lines, none of which is out of range.
-/

set_option autoImplicit false

namespace Companion.Outline

/-! ### Lines that name something -/

/-- What may stand in front of a key: blanks, and the dash of a list with blanks behind it. -/
inductive IsLead : List Char → Prop
  | blanks {indent : List Char} (blank : ∀ c ∈ indent, Chars.isBlank c = true) : IsLead indent
  | dash {indent more : List Char} (blank : ∀ c ∈ indent, Chars.isBlank c = true)
      (blank' : ∀ c ∈ more, Chars.isBlank c = true) : IsLead (indent ++ '-' :: ' ' :: more)

/-- The line gives the key the value. Its column is the number of bytes in front of it, from one. -/
def Gives (key value line : List Char) (column : Nat) : Prop :=
  ∃ lead rest, line = lead ++ (key ++ ':' :: rest) ∧ IsLead lead ∧ plainValue rest = value ∧
    column = Chars.byteSize lead + 1

/-- A text that neither a blank nor a dash begins. -/
def IsPlain (cs : List Char) : Prop := ∃ c rest, cs = c :: rest ∧ Chars.isBlank c = false ∧ c ≠ '-'

variable {key value line body : List Char} {column : Nat}

/-- The line of an index gives one of the keys the value, in a column. -/
def NamedAt (o : Outline) (keys : List (List Char)) (value : String) (i column : Nat) : Prop :=
  ∃ line, o.lines[i]? = some line ∧ ∃ key ∈ keys, Gives key value.toList line column

/-- The entry found is furthest to the left, and the first of those that are. -/
structure IsLeftmost (found : List (Nat × Nat)) (best : Nat × Nat) : Prop where
  mem : best ∈ found
  leftmost : ∀ entry ∈ found, best.2 ≤ entry.2
  first : ∀ entry ∈ found, entry.2 = best.2 → best.1 ≤ entry.1

theorem IsLeftmost.unique {found : List (Nat × Nat)} {best other : Nat × Nat}
    (is : IsLeftmost found best) (is' : IsLeftmost found other) : best = other := by
  have column := Nat.le_antisymm (is.leftmost _ is'.mem) (is'.leftmost _ is.mem)
  exact Prod.ext (Nat.le_antisymm (is.first _ is'.mem column.symm) (is'.first _ is.mem column))
    column

/-- The declaration is named by the line of an index, in a column that no other line that names it
is in front of, and by no line before it in the same column. -/
structure Declares (o : Outline) (declaration : String) (i column : Nat) : Prop where
  named : o.NamedAt ["name".toList] declaration i column
  leftmost : ∀ j column', o.NamedAt ["name".toList] declaration j column' → column ≤ column'
  first : ∀ j, o.NamedAt ["name".toList] declaration j column → i ≤ j

variable {o : Outline} {declaration member : String} {i start : Nat}

/-- A line behind the one that a declaration begins on names the member, and no line up to it begins
an entry that ends the declaration. -/
structure Reaches (o : Outline) (start column : Nat) (member : String) (i column' : Nat) :
    Prop where
  behind : start < i
  named : o.NamedAt memberKeys member i column'
  within : ∀ j line, start < j → j ≤ i → o.lines[j]? = some line → isSibling line column = false

/-- No line between a declaration's and this one names the member. -/
structure Holds (o : Outline) (start column : Nat) (member : String) (i column' : Nat) : Prop
    extends Reaches o start column member i column' where
  first : ∀ j column', start < j → o.NamedAt memberKeys member j column' → i ≤ j

end Companion.Outline

import Companion.Code.Cursor
import Companion.Code.Number
import Companion.Contract.Validator
import Companion.TypeRef.Queries
import Mathlib.Tactic.Positivity

/-! Conditions on machine integers: how their text is read, and what they say of a value.

The language is the part of Rust that checks of multiples and of bounds are written in, where all
integers are of one type. Arithmetic is checked: what would not compile, or would stop the program,
has no value.
-/

set_option autoImplicit false

namespace Companion

def Comparison.Holds : Comparison → Int → Int → Prop
  | greater, m, n => n < m
  | greaterOrEqual, m, n => n ≤ m
  | less, m, n => m < n
  | lessOrEqual, m, n => m ≤ n

instance (c : Comparison) (m n : Int) : Decidable (c.Holds m n) :=
  match c with
  | .greater => inferInstanceAs (Decidable (n < m))
  | .greaterOrEqual => inferInstanceAs (Decidable (n ≤ m))
  | .less => inferInstanceAs (Decidable (m < n))
  | .lessOrEqual => inferInstanceAs (Decidable (m ≤ n))

/-! ### Machine integers -/

/-- A type of machine integers, by its sign and its number of bits. -/
structure IntegerType where
  signed : Bool
  bits : Nat
  deriving DecidableEq, Repr

namespace IntegerType

/-- The types by name. Addresses have 64 bits. -/
def table : List (String × IntegerType) :=
  [("i8", ⟨true, 8⟩), ("i16", ⟨true, 16⟩), ("i32", ⟨true, 32⟩), ("i64", ⟨true, 64⟩),
    ("i128", ⟨true, 128⟩), ("isize", ⟨true, 64⟩), ("u8", ⟨false, 8⟩), ("u16", ⟨false, 16⟩),
    ("u32", ⟨false, 32⟩), ("u64", ⟨false, 64⟩), ("u128", ⟨false, 128⟩), ("usize", ⟨false, 64⟩)]

/-- What a type of integers, or a reference to one, is made of. -/
def ofType? (t : TypeRef) : Option IntegerType :=
  match t.dereferenced with
  | .path name _ => (table.find? (·.1 == Text.lastSegment name)).map Prod.snd
  | _ => none

/-- Every type that counts as one of integers is in the table, and no other. -/
theorem ofType?_isSome (t : TypeRef) : (ofType? t).isSome = t.isInteger := by
  unfold ofType? TypeRef.isInteger
  cases t.dereferenced with
  | path name arguments =>
    have names : TypeRef.integers = table.map Prod.fst := by decide
    rw [TypeRef.isNamed, names, Bool.eq_iff_iff, Option.isSome_map, List.find?_isSome,
      List.contains_iff_mem, List.mem_map]
    simp only [beq_iff_eq]
  | _ => rfl

variable (w : IntegerType)

def least : Int := if w.signed then -2 ^ (w.bits - 1) else 0

/-- The first number above all of the type. -/
def bound : Int := if w.signed then 2 ^ (w.bits - 1) else 2 ^ w.bits

def Admits (n : Int) : Prop := w.least ≤ n ∧ n < w.bound

instance (n : Int) : Decidable (w.Admits n) := inferInstanceAs (Decidable (_ ∧ _))

/-- The remainder of a division whose quotient is a number of the type. -/
def remainder? (dividend divisor : Int) : Option Int :=
  if divisor ≠ 0 ∧ w.Admits (dividend.tdiv divisor) then some (dividend.tmod divisor) else none

variable {w : IntegerType} {n i : Int}

theorem admits_zero : w.Admits 0 := by
  have half : (0 : Int) < 2 ^ (w.bits - 1) := by positivity
  have whole : (0 : Int) < 2 ^ w.bits := by positivity
  unfold Admits least bound
  cases w.signed
  · exact ⟨le_rfl, whole⟩
  · exact ⟨neg_nonpos.mpr half.le, half⟩

theorem admits_least : w.Admits w.least :=
  ⟨le_rfl, admits_zero.1.trans_lt admits_zero.2⟩

theorem nonneg_of_admits (unsigned : w.signed = false) (admitted : w.Admits n) : 0 ≤ n := by
  simpa [least, unsigned] using admitted.1

/-- Division makes numbers no larger, apart from the division by minus one. -/
theorem admits_tdiv (dividend : w.Admits n) (divisor : w.Admits i) (nonzero : i ≠ 0)
    (whole : w.signed = true → i ≠ -1) : w.Admits (n.tdiv i) := by
  cases signed : w.signed with
  | false =>
    have positive := nonneg_of_admits signed dividend
    have quotient := Int.tdiv_nonneg positive (nonneg_of_admits signed divisor)
    exact ⟨admits_zero.1.trans quotient, (Int.tdiv_le_self _ positive).trans_lt dividend.2⟩
  | true =>
    have size : (n.tdiv i).natAbs = n.natAbs / i.natAbs := Int.natAbs_tdiv ..
    have other := whole signed
    simp only [Admits, least, bound, signed, if_true] at dividend ⊢
    by_cases one : i = 1
    · rwa [one, Int.tdiv_one]
    · have half : n.natAbs / i.natAbs ≤ n.natAbs / 2 :=
        Nat.div_le_div_left (by omega) (by decide)
      omega

theorem remainder?_eq_some (dividend : w.Admits n) (divisor : w.Admits i) (nonzero : i ≠ 0)
    (whole : w.signed = true → i ≠ -1) : w.remainder? n i = some (n.tmod i) :=
  if_pos ⟨nonzero, admits_tdiv dividend divisor nonzero whole⟩

/-- The opposite of the least number of a type with a sign is none of the type. -/
theorem remainder?_least (signed : w.signed = true) : w.remainder? w.least (-1) = none := by
  refine if_neg fun both => ?_
  have upper := both.2.2
  simp [least, bound, signed, Int.tdiv_neg] at upper

end IntegerType

namespace Code

/-! ### Expressions -/

inductive Expression where
  | literal (value : Nat)
  /-- A literal behind a minus sign. -/
  | negated (value : Nat)
  | name (x : String)
  | dereference (e : Expression)
  | remainder (dividend divisor : Expression)
  | equal (left right : Expression)
  | compare (comparison : Comparison) (left right : Expression)
  /-- What a value that may be missing holds, by reference. -/
  | asRef (e : Expression)
  /-- A condition on what is held, if there is anything. -/
  | mapOr (e : Expression) (absent : Bool) (x : String) (body : Expression)
  deriving DecidableEq, Repr

namespace Expression

/-- A token, or a group by what it holds. -/
inductive Item where
  | mark (mark : Char) (joint : Bool)
  | name (x : String)
  | number (value : Nat)
  | nothing
  | inner (e : Expression)
  /-- A truth value, and a closure for a condition. -/
  | fallback (absent : Bool) (x : String) (body : Expression)
  deriving DecidableEq, Repr

/-- Whether the item is one of the marks. -/
def Item.isMark (marks : List Char) : Item → Bool
  | mark c _ => marks.contains c
  | _ => false

/-! ### Reading -/

def method? (e : Expression) (method : String) : Item → Option Expression
  | .nothing => if method = "as_ref" then some (.asRef e) else none
  | .fallback absent x body => if method = "map_or" then some (.mapOr e absent x body) else none
  | _ => none

/-- The calls of methods after an operand. -/
def calls? : Expression → List Item → Option Expression
  | e, [] => some e
  | e, .mark '.' _ :: .name method :: arguments :: rest =>
    (method? e method arguments).bind (calls? · rest)
  | _, _ => none

def operand? : List Item → Option Expression
  | [.mark '-' _, .number n] => some (.negated n)
  | .mark '*' _ :: rest => (operand? rest).map .dereference
  | .number n :: rest => calls? (.literal n) rest
  | .name x :: rest => if Tree.reserved.contains x then none else calls? (.name x) rest
  | .inner e :: rest => calls? e rest
  | _ => none

def percent : List Char := ['%']

/-- Marks that comparisons begin with. -/
def signs : List Char := ['=', '<', '>']

/-- The items in front of the first of some marks, and those from there on. -/
def breakAt (marks : List Char) (items : List Item) : List Item × List Item :=
  (items.takeWhile (!·.isMark marks), items.dropWhile (!·.isMark marks))

/-- An operand, or the remainder of one by another. -/
def product? (items : List Item) : Option Expression :=
  match breakAt percent items with
  | (_, []) => operand? items
  | (left, _ :: right) => do return .remainder (← operand? left) (← operand? right)

/-- How two sides are compared, and the second side. -/
def comparison? : List Item → Option ((Expression → Expression → Expression) × List Item)
  | .mark '=' true :: .mark '=' _ :: right => some (.equal, right)
  | .mark '<' true :: .mark '=' _ :: right => some (.compare .lessOrEqual, right)
  | .mark '>' true :: .mark '=' _ :: right => some (.compare .greaterOrEqual, right)
  | .mark '<' _ :: right => some (.compare .less, right)
  | .mark '>' _ :: right => some (.compare .greater, right)
  | _ => none

def ofItems? (items : List Item) : Option Expression :=
  match breakAt signs items with
  | (_, []) => product? items
  | (left, rest) => do
    let (relation, right) ← comparison? rest
    return relation (← product? left) (← product? right)

/-- What a group in parentheses holds. -/
def Item.ofGroup? : List Item → Option Item
  | [] => some nothing
  | name truth :: mark ',' _ :: mark '|' _ :: name x :: mark '|' _ :: body =>
    if Tree.reserved.contains x then none
    else if truth = "true" then (ofItems? body).map (fallback true x)
    else if truth = "false" then (ofItems? body).map (fallback false x)
    else none
  | items => (ofItems? items).map inner

mutual

def item? : Tree → Option Item
  | .ident x => some (.name x)
  | .punct mark joint => some (.mark mark joint)
  | .literal text =>
    match Number.integer? text with
    | some (n, "") => some (.number n)
    | _ => none
  | .group .parenthesis body => (items? body).bind Item.ofGroup?
  | .group _ _ => none

def items? : List Tree → Option (List Item)
  | [] => some []
  | tree :: trees => do return (← item? tree) :: (← items? trees)

end

def ofText? (text : String) : Option Expression :=
  ((Tree.ofText text).bind items?).bind ofItems?

/-! ### Evaluation -/

/-- What an expression stands for. -/
inductive Value where
  | integer (n : Int)
  | truth (b : Bool)
  | reference (isMutable : Bool) (referent : Value)
  | absent
  | present (content : Value)
  deriving DecidableEq, Repr

namespace Value

/-- An integer to compare. -/
def integer? : Value → Option Int
  | integer n => some n
  | _ => none

/-- An integer to divide, which a shared reference may lead to. -/
def operand? : Value → Option Int
  | integer n => some n
  | reference false (integer n) => some n
  | _ => none

def referent? : Value → Option Value
  | reference _ v => some v
  | _ => none

end Value

/-- Variables by their values. -/
abbrev Scope := String → Option Value

/-- A scope with one more variable. -/
def Scope.bind (scope : Scope) (x : String) (v : Value) : Scope :=
  fun y => if y = x then some v else scope y

/-- The numbers that an expression is written with. -/
def literals : Expression → List Int
  | literal n => [n]
  | negated n => [-n]
  | .name _ => []
  | dereference e | asRef e => literals e
  | remainder a b | equal a b | compare _ a b => literals a ++ literals b
  | mapOr e _ _ body => literals e ++ literals body

def eval (w : IntegerType) (scope : Scope) : Expression → Option Value
  | literal n => if w.Admits n then some (.integer n) else none
  | negated n => if w.signed ∧ w.Admits (-n) then some (.integer (-n)) else none
  | .name x => scope x
  | dereference e => do (← eval w scope e).referent?
  | remainder a b => do
    let m ← (← eval w scope a).operand?
    let n ← (← eval w scope b).operand?
    return .integer (← w.remainder? m n)
  | equal a b => do
    let m ← (← eval w scope a).integer?
    let n ← (← eval w scope b).integer?
    return .truth (m = n)
  | compare c a b => do
    let m ← (← eval w scope a).integer?
    let n ← (← eval w scope b).integer?
    return .truth (c.Holds m n)
  | asRef e => do
    match ← eval w scope e with
    | .absent => return .absent
    | .present v => return .present (.reference false v)
    | _ => none
  | mapOr e absent x body => do
    match ← eval w scope e with
    | .absent => return .truth absent
    | .present v => eval w (scope.bind x v) body
    | _ => none

end Expression

end Code

end Companion

import Companion.Decimal.Word
import Companion.TypeRef.Queries
import Companion.Value.Basic

/-! Library types that have an encoding as values of their own.

Sequences and sets are lists and maps are lists of pairs. The order in which hashed collections
list what they hold is a parameter of writing.
-/

set_option autoImplicit false

namespace Companion

inductive IntegerWidth where
  | bits8
  | bits16
  | bits32
  | bits64
  /-- As wide as addresses, which have 64 bits. -/
  | address
  deriving DecidableEq, Repr

namespace IntegerWidth

def suffix : IntegerWidth → String
  | bits8 => "8"
  | bits16 => "16"
  | bits32 => "32"
  | bits64 => "64"
  | address => "size"

def bits : IntegerWidth → Nat
  | bits8 => 8
  | bits16 => 16
  | bits32 => 32
  | bits64 => 64
  | address => 64

def all : List IntegerWidth := [bits8, bits16, bits32, bits64, address]

end IntegerWidth

inductive Leaf where
  | integer (signed : Bool) (width : IntegerWidth)
  /-- Of 64 or 32 bits. -/
  | float (wide : Bool)
  | bool
  | char
  | text
  | option (content : Leaf)
  | sequence (item : Leaf)
  | set (ordered : Bool) (item : Leaf)
  | map (ordered : Bool) (key item : Leaf)
  deriving DecidableEq, Repr

namespace Leaf

def integerName (signed : Bool) (width : IntegerWidth) : String :=
  (if signed then "i" else "u") ++ width.suffix

def integers : List Leaf :=
  IntegerWidth.all.flatMap fun width => [integer true width, integer false width]

/-- Types without arguments, by name. -/
def scalar? (name : String) : Option Leaf :=
  match name with
  | "f64" => some (float true)
  | "f32" => some (float false)
  | "bool" => some bool
  | "char" => some char
  | "String" => some text
  | _ => integers.find? fun
    | integer signed width => integerName signed width == name
    | _ => false

/-- Whether values of the type have a total order. -/
def isOrdered : Leaf → Bool
  | integer .. | bool | char | text => true
  | float _ => false
  | option t | sequence t => t.isOrdered
  | set ordered t => ordered && t.isOrdered
  | map ordered k t => ordered && k.isOrdered && t.isOrdered

/-- Whether values of the type can be hashed. -/
def isHashable : Leaf → Bool
  | integer .. | bool | char | text => true
  | float _ => false
  | option t | sequence t => t.isHashable
  | set ordered t => ordered && t.isHashable
  | map ordered k t => ordered && k.isHashable && t.isHashable

mutual

/-- The encoding of a type. What ordered and hashed collections hold must allow for it. -/
def ofType? : TypeRef → Option Leaf
  | .path name arguments =>
    match Text.lastSegment name, ofTypes? arguments with
    | "Option", some [t] => some (option t)
    | "Vec", some [t] => some (sequence t)
    | "VecDeque", some [t] => some (sequence t)
    | "LinkedList", some [t] => some (sequence t)
    | "BTreeSet", some [t] => if t.isOrdered then some (set true t) else none
    | "HashSet", some [t] => if t.isHashable then some (set false t) else none
    | "BTreeMap", some [k, t] => if k.isOrdered then some (map true k t) else none
    | "HashMap", some [k, t] => if k.isHashable then some (map false k t) else none
    | scalar, some [] => scalar? scalar
    | _, _ => none
  | _ => none

def ofTypes? : List TypeRef → Option (List Leaf)
  | [] => some []
  | t :: others => return (← ofType? t) :: (← ofTypes? others)

end

end Leaf

/-- What a value of a leaf type is. Ordered collections are sorted, and no set or map holds a
member or key twice. -/
inductive Datum where
  | integer (value : Int)
  | float (value : Float)
  | bool (value : Bool)
  | char (value : Char)
  | text (value : String)
  | absent
  | present (content : Datum)
  | list (items : List Datum)
  | map (entries : List (Datum × Datum))
  deriving Inhabited

namespace Datum

mutual

/-- The order of data of one type: absence first, lists and maps from their first members on. -/
def order : Datum → Datum → Ordering
  | integer a, integer b => compare a b
  | bool a, bool b => compare a.toNat b.toNat
  | char a, char b => compare a.toNat b.toNat
  | text a, text b => compare a b
  | absent, absent => .eq
  | absent, present _ => .lt
  | present _, absent => .gt
  | present a, present b => order a b
  | list as, list bs => orderLists as bs
  | map as, map bs => orderEntries as bs
  | _, _ => .eq

def orderLists : List Datum → List Datum → Ordering
  | [], [] => .eq
  | [], _ :: _ => .lt
  | _ :: _, [] => .gt
  | a :: as, b :: bs => (order a b).then (orderLists as bs)

def orderEntries : List (Datum × Datum) → List (Datum × Datum) → Ordering
  | [], [] => .eq
  | [], _ :: _ => .lt
  | _ :: _, [] => .gt
  | (k, a) :: as, (l, b) :: bs => ((order k l).then (order a b)).then (orderEntries as bs)

end

/-- Add a member to a set; at its place if the set is ordered, else at the end. -/
def insert (ordered : Bool) (d : Datum) : List Datum → List Datum
  | [] => [d]
  | e :: others =>
    match order d e with
    | .eq => e :: others
    | .lt => if ordered then d :: e :: others else e :: insert ordered d others
    | .gt => e :: insert ordered d others

/-- Add an entry to a map. The last value of a key counts. -/
def insertEntry (ordered : Bool) (key item : Datum) : List (Datum × Datum) → List (Datum × Datum)
  | [] => [(key, item)]
  | (k, e) :: others =>
    match order key k with
    | .eq => (k, item) :: others
    | .lt => if ordered then (key, item) :: (k, e) :: others
      else (k, e) :: insertEntry ordered key item others
    | .gt => (k, e) :: insertEntry ordered key item others

def ofMembers (ordered : Bool) (items : List Datum) : Datum :=
  list (items.foldl (fun known d => insert ordered d known) [])

def ofEntries (ordered : Bool) (entries : List (Datum × Datum)) : Datum :=
  map (entries.foldl (fun known (k, d) => insertEntry ordered k d known) [])

end Datum

namespace Leaf

/-- The least and the greatest value of an integer type. -/
def range (signed : Bool) (width : IntegerWidth) : Int × Int :=
  if signed then (Word.least width.bits, Word.greatest width.bits)
  else (0, (Word.count width.bits : Int) - 1)

def decodeInteger (signed : Bool) (width : IntegerWidth) (n : Int) :
    Except ConversionError Datum :=
  let (least, greatest) := range signed width
  if least ≤ n && n ≤ greatest then .ok (.integer n)
  else .error (.outOfRange n (integerName signed width))

/-- A float of the width; integers are taken for floats. -/
def decodeFloat (wide : Bool) (x : Float) : Datum :=
  .float (if wide then x else x.toFloat32.toFloat)

/-- The two members of a pair. -/
def pair? : Value → Option (Value × Value)
  | .list [key, item] => some (key, item)
  | _ => none

def decodeEntry (decodeKey decodeItem : Value → Except ConversionError Datum) (v : Value) :
    Except ConversionError (Datum × Datum) :=
  match pair? v with
  | some (key, item) => do return (← decodeKey key, ← decodeItem item)
  | none => .error (.expected "key-value pair" v)

def decode : Leaf → Value → Except ConversionError Datum
  | integer signed width, v =>
    match v with
    | .integer n => decodeInteger signed width n.toInt
    | .unsigned n => decodeInteger signed width n.toNat
    | v => .error (.expected (integerName signed width) v)
  | float wide, v =>
    match v with
    | .float x => .ok (decodeFloat wide x)
    | .integer n => .ok (decodeFloat wide (Float.ofInt n.toInt))
    | .unsigned n => .ok (decodeFloat wide (Float.ofNat n.toNat))
    | v => .error (.expected "f64" v)
  | bool, v =>
    match v with
    | .bool b => .ok (.bool b)
    | v => .error (.expected "bool" v)
  | char, v =>
    match v with
    | .text s =>
      match s.toList with
      | [c] => .ok (.char c)
      | _ => .error (.expected "char" v)
    | v => .error (.expected "char" v)
  | text, v =>
    match v with
    | .text s => .ok (.text s)
    | v => .error (.expected "text" v)
  | option t, v =>
    match v with
    | .null => .ok .absent
    | v => .present <$> t.decode v
  | sequence t, v =>
    match v with
    | .list items => .list <$> items.mapM t.decode
    | v => .error (.expected "list" v)
  | set ordered t, v =>
    match v with
    | .list items => .ofMembers ordered <$> items.mapM t.decode
    | v => .error (.expected "list" v)
  | map ordered k t, v =>
    match v with
    | .list items => .ofEntries ordered <$> items.mapM (decodeEntry k.decode t.decode)
    | v => .error (.expected "list" v)

/-- The value of a datum of the type. Hashed collections are listed as `arrange` says. -/
def encode (arrange : List Value → List Value) : Leaf → Datum → Value
  | integer true _, .integer n => .integer (Int64.ofInt n)
  | integer false _, .integer n => .unsigned (UInt64.ofNat n.toNat)
  | float _, .float x => .float x
  | bool, .bool b => .bool b
  | char, .char c => .text (String.singleton c)
  | text, .text s => .text s
  | option t, .present d => t.encode arrange d
  | sequence t, .list items => .list (items.map (t.encode arrange))
  | set ordered t, .list items =>
    let values := items.map (t.encode arrange)
    .list (if ordered then values else arrange values)
  | map ordered k t, .map entries =>
    let values := entries.map fun (key, d) =>
      Value.list [k.encode arrange key, t.encode arrange d]
    .list (if ordered then values else arrange values)
  | _, _ => .null

end Leaf

end Companion

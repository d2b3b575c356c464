import Companion.Decimal.Word
import Companion.Text.Basic
import Companion.Yaml.Node
import Companion.Yaml.Scalar

/-! Reading values of known types from a document.

An unquoted scalar without text stands for an empty list and for an empty mapping.
-/

set_option autoImplicit false

namespace Companion.Yaml

/-- What is read from a document. The state is how many aliases may still be followed. -/
abbrev Read (α : Type) : Type := ReaderT Document (StateT Nat Option) α

namespace Read

variable {α : Type}

/-- Aliases that may be followed for each node or end of a collection. -/
def aliasesPerEvent : Nat := 100

def run (d : Document) (item : Node → Read α) : Option α :=
  let root := d.root.getD (.blank none)
  (·.1) <$> (item root d).run (aliasesPerEvent * root.size)

/-- The node, or the one it stands for. -/
def follow (n : Node) : Read Node := do
  match n with
  | .aliasOf number =>
    let budget ← get
    guard (0 < budget)
    set (budget - 1)
    let some target := (← read).target? number | failure
    return target
  | n => return n

/-- The text of any scalar. -/
def text (n : Node) : Read String := do
  match ← follow n with
  | .scalar _ _ content => return content
  | _ => failure

/-- The text of a scalar that is not quoted, or is a literal block with the tag. -/
def bare (tag : Tag) (n : Node) : Read String := do
  match ← follow n with
  | .scalar _ .plain content => return content
  | .scalar (some found) .literal content =>
    guard (found = tag)
    return content
  | _ => failure

def bool (n : Node) : Read Bool := do
  let some b := bool? (← bare Scalar.boolTag n) | failure
  return b

/-- A count of at most 64 bits. -/
def natural (n : Node) : Read Nat := do
  let some count := natural? (← bare Scalar.integerTag n) | failure
  guard (Word.fitsUnsigned 64 count)
  return count

/-- A signed integer of at most 64 bits. -/
def integer (n : Node) : Read Int := do
  let some i := integer? (← bare Scalar.integerTag n) | failure
  guard (Word.fitsSigned 64 i)
  return i

/-- A scalar whose text decides its type. -/
def scalar (n : Node) : Read Scalar := do
  match ← follow n with
  | .scalar tag style content =>
    let some s := Scalar.of? tag style content | failure
    return s
  | _ => failure

/-- Whether a node says that there is no value. A tag for that is refused on other texts. -/
def isAbsent : Node → Read Bool
  | .scalar none .plain content => return content.isEmpty || isNull content
  | .scalar (some tag) .plain content => do
    if tag = Scalar.nullTag then
      guard (isNull content)
      return true
    return false
  | _ => return false

def optional (item : Node → Read α) (n : Node) : Read (Option α) := do
  let n ← follow n
  if ← isAbsent n then return none
  return some (← item n)

def isBlank : Node → Bool
  | .scalar _ .plain content => content.isEmpty
  | _ => false

def list (item : Node → Read α) (n : Node) : Read (List α) := do
  match ← follow n with
  | .sequence _ items => items.mapM item
  | other =>
    guard (isBlank other)
    return []

def entries (n : Node) : Read (List (Node × Node)) := do
  match ← follow n with
  | .mapping _ found => return found
  | other =>
    guard (isBlank other)
    return []

/-- A mapping with any keys. Of entries with one key the last counts. -/
def dictionary (key : Node → Read String) (value : Node → Read α) (n : Node) :
    Read (Dictionary α) :=
  return .ofList (← (← entries n).mapM fun (k, v) => return (← key k, ← value v))

end Read

/-- Known entries of a mapping, each given at most once. -/
structure Fields where
  entries : List (String × Node)

namespace Fields

variable {α : Type}

/-- The known entries. Others are refused or passed over. -/
def read (known : List String) (strict : Bool) (n : Node) : Read Fields := do
  let found ← (← Read.entries n).filterMapM fun (k, v) => do
    let name ← Read.text k
    guard (!strict || known.contains name)
    return if known.contains name then some (name, v) else none
  guard (found.map (·.1)).Nodup
  return ⟨found⟩

def required (f : Fields) (name : String) (item : Node → Read α) : Read α := do
  let some n := f.entries.lookup name | failure
  item n

def getD (f : Fields) (name : String) (item : Node → Read α) (default : α) : Read α :=
  match f.entries.lookup name with
  | some n => item n
  | none => return default

def optional (f : Fields) (name : String) (item : Node → Read α) : Read (Option α) :=
  f.getD name (Read.optional item) none

def list (f : Fields) (name : String) (item : Node → Read α) : Read (List α) :=
  f.getD name (Read.list item) []

end Fields

end Companion.Yaml

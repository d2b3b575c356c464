import Companion.Value.Basic
import Companion.Value.Leaf

/-! Readers of nested records, described by what they read in turn. -/

set_option autoImplicit false

/-! ### Reading records entry by entry

An absent entry reads as nothing, and what nobody has asked for is an error at the end.
-/

namespace Companion

structure RecordReader where
  type : String
  entries : List (String × Value)
  /-- The names that were asked for. -/
  requested : List String
  deriving Inhabited

namespace RecordReader

/-- The first name that repeats an earlier one. -/
def firstRepeated? (seen : List String) : List String → Option String
  | [] => none
  | name :: others =>
    if seen.contains name then some name else firstRepeated? (name :: seen) others

def ofValue (type : String) (v : Value) : Except ConversionError RecordReader :=
  match v with
  | .record entries =>
    match firstRepeated? [] (entries.map Prod.fst) with
    | some field => .error (.duplicateField type field)
    | none => .ok ⟨type, entries, []⟩
  | v => .error (.expected "record" v)

variable {α : Type}

/-- How an entry is read. -/
abbrev Decoder (α : Type) := Value → Except ConversionError α

/-- Count an entry as read. -/
def skip (r : RecordReader) (field : String) : RecordReader :=
  { r with requested := field :: r.requested }

/-- Read an entry, if there is one. -/
def nested (r : RecordReader) (field : String) (decode : Decoder α) :
    Except ConversionError (Option α) × RecordReader :=
  let result := match r.entries.lookup field with
    | none => .ok none
    | some v => ((decode v).map some).mapError (.inField r.type field)
  (result, r.skip field)

/-- A decoder for a value or null. -/
def orNull (decode : Decoder α) : Decoder (Option α)
  | .null => .ok none
  | v => (decode v).map some

/-- A decoder for a list of values. -/
def listOf (decode : Decoder α) : Decoder (List α)
  | .list items => items.mapM decode
  | v => .error (.expected "list" v)

def optional (r : RecordReader) (field : String) (decode : Decoder α) :
    Except ConversionError (Option (Option α)) × RecordReader :=
  r.nested field (orNull decode)

def list (r : RecordReader) (field : String) (decode : Decoder α) :
    Except ConversionError (Option (List α)) × RecordReader :=
  r.nested field (listOf decode)

/-- The first entry that nobody asked for is unknown. -/
def finish (r : RecordReader) : Except ConversionError Unit :=
  match r.entries.find? fun (name, _) => !r.requested.contains name with
  | some (name, _) => .error (.unknownField r.type name)
  | none => .ok ()

end RecordReader

/-! ### Nested records -/

/-- How a field holds what a decoder reads. -/
inductive FieldForm where
  | plain
  | optional
  | list
  deriving DecidableEq, Repr

mutual

inductive Decoder where
  | leaf (type : Leaf)
  | record (type : String) (steps : List ReadStep)

inductive ReadStep where
  | read (field : String) (form : FieldForm) (decoder : Decoder)
  | skip (field : String)

end

/-- The value of a field that was read in a form. -/
def FieldForm.decode (form : FieldForm) (decode : RecordReader.Decoder Value) :
    RecordReader.Decoder Value := fun v =>
  match form with
  | .plain => decode v
  | .optional => (·.getD .null) <$> RecordReader.orNull decode v
  | .list => .list <$> RecordReader.listOf decode v

mutual

/-- What is read, written again. -/
def Decoder.decode (arrange : List Value → List Value) :
    Decoder → Value → Except ConversionError Value
  | .leaf t, v => (t.encode arrange) <$> t.decode v
  | .record type steps, v => do
    let r ← RecordReader.ofValue type v
    let (entries, r) ← ReadStep.runAll arrange r steps
    r.finish
    return .record entries

/-- Take a step: the entry read, if there is one. -/
def ReadStep.run (arrange : List Value → List Value) (r : RecordReader) :
    ReadStep → Except ConversionError (Option Value) × RecordReader
  | .read field form decoder => r.nested field (form.decode (decoder.decode arrange))
  | .skip field => (.ok none, r.skip field)

def ReadStep.field : ReadStep → String
  | .read field .. => field
  | .skip field => field

/-- Take steps up to the first error. -/
def ReadStep.runAll (arrange : List Value → List Value) (r : RecordReader) :
    List ReadStep → Except ConversionError (List (String × Value) × RecordReader)
  | [] => .ok ([], r)
  | step :: others => do
    let (result, r) := step.run arrange r
    let entry ← result
    let (entries, r) ← ReadStep.runAll arrange r others
    return ((entry.map (step.field, ·)).toList ++ entries, r)

end

end Companion

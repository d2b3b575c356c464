import Companion.Diagnostic.Buffer

/-! Results of checks that go on after a failure, so that one run reports every problem. -/

set_option autoImplicit false

namespace Companion

/-- What checks recorded, and a value unless one of them failed. -/
structure Checked (α : Type) where
  value : Option α
  buffer : DiagnosticBuffer
  failed_eq : buffer.failed = value.isNone
  /-- A failure is told by an error. -/
  error_of_failed : buffer.failed = true → ∃ d ∈ buffer.entries, d.isError = true

namespace Checked

variable {α β : Type}

def diagnostics (x : Checked α) : Diagnostics := x.buffer.entries

def isFailed (x : Checked α) : Bool := x.buffer.failed

/-- Reports of both are kept, and both have to succeed. -/
instance : Applicative Checked where
  pure a := ⟨some a, .empty, rfl, nofun⟩
  seq f x :=
    let y := x ()
    { value := f.value.bind fun g => y.value.map g
      buffer := f.buffer.append y.buffer
      failed_eq := by
        have left := f.failed_eq
        have right := y.failed_eq
        cases hf : f.value <;> cases hy : y.value <;> simp_all
      error_of_failed := by
        intro failed
        simp only [DiagnosticBuffer.failed_append, Bool.or_eq_true] at failed
        rcases failed with failed | failed
        · obtain ⟨d, member, isError⟩ := f.error_of_failed failed
          exact ⟨d, by simp [member], isError⟩
        · obtain ⟨d, member, isError⟩ := y.error_of_failed failed
          exact ⟨d, by simp [member], isError⟩ }

/-- A check of the value, which is not made if there is none. -/
def andThen (x : Checked α) (f : α → Checked β) : Checked β where
  value := x.value.bind fun a => (f a).value
  buffer := x.buffer.append (x.value.elim .empty fun a => (f a).buffer)
  failed_eq := by
    have left := x.failed_eq
    cases hx : x.value with
    | none => simp_all
    | some a =>
      have right := (f a).failed_eq
      simp_all
  error_of_failed := by
    intro failed
    simp only [DiagnosticBuffer.failed_append, Bool.or_eq_true] at failed
    rcases failed with failed | failed
    · obtain ⟨d, member, isError⟩ := x.error_of_failed failed
      exact ⟨d, by simp [member], isError⟩
    · cases hx : x.value with
      | none => simp [hx] at failed
      | some a =>
        obtain ⟨d, member, isError⟩ := (f a).error_of_failed (by simpa [hx] using failed)
        exact ⟨d, by simp [member], isError⟩

/-- An error that leaves no value. -/
def failWith (location : Location) (template : String) (arguments : List String) : Checked α where
  value := none
  buffer := DiagnosticBuffer.empty.fail ⟨.error, template, arguments, location⟩
  failed_eq := rfl
  error_of_failed := fun _ => ⟨_, List.mem_singleton_self _, rfl⟩

instance : Inhabited (Checked α) := ⟨failWith default "" []⟩

/-- An error that leaves no value. The message is no template. -/
def fail (location : Location) (message : String) : Checked α :=
  failWith location (Template.escape message) []

/-- A value, whatever is reported about it. -/
def noted (a : α) (ds : Diagnostics) : Checked α := ⟨some a, ⟨ds, false⟩, rfl, nofun⟩

/-- Something to report, which is no failure. -/
def report (severity : Severity) (location : Location) (template : String)
    (arguments : List String) : Checked Unit :=
  noted () [⟨severity, template, arguments, location⟩]

/-- Success without a report. -/
def ok : Checked Unit := pure ()

/-- An error about a value that stands all the same. -/
def usageError (location : Location) (template : String) (arguments : List String) :
    Checked Unit :=
  report .error location template arguments

/-- All checks in order. -/
def all : List (Checked α) → Checked (List α)
  | [] => pure []
  | x :: others => (· :: ·) <$> x <*> all others

/-- The values that there are. -/
def successes (xs : List (Checked α)) : List α := xs.filterMap (·.value)

/-! ### Values and failures -/

@[simp] theorem value_pure (a : α) : (pure a : Checked α).value = some a := rfl

@[simp] theorem value_ok : ok.value = some () := rfl

@[simp] theorem value_map (f : α → β) (x : Checked α) : (f <$> x).value = x.value.map f := rfl

@[simp] theorem buffer_map (f : α → β) (x : Checked α) : (f <$> x).buffer = x.buffer := by
  change DiagnosticBuffer.empty.append x.buffer = x.buffer
  simp [DiagnosticBuffer.append]

@[simp] theorem value_seq (f : Checked (α → β)) (x : Checked α) :
    (f <*> x).value = f.value.bind fun g => x.value.map g := rfl

@[simp] theorem value_andThen (x : Checked α) (f : α → Checked β) :
    (x.andThen f).value = x.value.bind fun a => (f a).value := rfl

@[simp] theorem value_failWith (l : Location) (template : String) (arguments : List String) :
    (failWith l template arguments : Checked α).value = none := rfl

@[simp] theorem value_fail (l : Location) (message : String) :
    (fail l message : Checked α).value = none := rfl

@[simp] theorem value_noted (a : α) (ds : Diagnostics) : (noted a ds).value = some a := rfl

/-- All checks succeed exactly if each of them does. -/
theorem value_all_eq_some {xs : List (Checked α)} {values : List α} :
    (all xs).value = some values ↔ xs.map (·.value) = values.map some := by
  induction xs generalizing values with
  | nil => cases values <;> simp [all]
  | cons x others ih =>
    cases values with
    | nil => cases hx : x.value <;> simp [all, hx]
    | cons first rest =>
      cases hx : x.value with
      | none => simp [all, hx]
      | some a => simpa [all, hx, ih] using and_comm

/-- Where every check succeeds, the values that there are are all values. -/
theorem successes_eq {xs : List (Checked α)} {values : List α}
    (succeed : (all xs).value = some values) : successes xs = values := by
  have same := value_all_eq_some.mp succeed
  calc successes xs = (xs.map (·.value)).filterMap id := by rw [List.filterMap_map]; rfl
    _ = values := by rw [same]; simp

end Checked

end Companion

import Companion.Diagnostic.Basic

/-! Diagnostics of one declaration, which reach the shared ones together.

A declaration that failed stays failed after its diagnostics have been handed over.
-/

set_option autoImplicit false

namespace Companion

structure DiagnosticBuffer where
  entries : Diagnostics
  failed : Bool
  deriving DecidableEq, Repr, Inhabited

namespace DiagnosticBuffer

def empty : DiagnosticBuffer := ⟨[], false⟩

def push (b : DiagnosticBuffer) (d : Diagnostic) : DiagnosticBuffer :=
  { b with entries := b.entries ++ [d] }

def markFailed (b : DiagnosticBuffer) : DiagnosticBuffer := { b with failed := true }

/-- Record an error that fails the declaration. -/
def fail (b : DiagnosticBuffer) (d : Diagnostic) : DiagnosticBuffer := (b.push d).markFailed

/-- What both record, in order. -/
def append (b c : DiagnosticBuffer) : DiagnosticBuffer :=
  ⟨b.entries ++ c.entries, b.failed || c.failed⟩

/-- The emptied buffer, and the shared diagnostics with its own at their end. -/
def flush (b : DiagnosticBuffer) (shared : Diagnostics) : DiagnosticBuffer × Diagnostics :=
  ({ b with entries := [] }, shared ++ b.entries)

@[simp] theorem entries_append (b c : DiagnosticBuffer) :
    (b.append c).entries = b.entries ++ c.entries := rfl

@[simp] theorem failed_append (b c : DiagnosticBuffer) :
    (b.append c).failed = (b.failed || c.failed) := rfl

@[simp] theorem entries_empty : empty.entries = [] := rfl

@[simp] theorem failed_empty : empty.failed = false := rfl

@[simp] theorem entries_push (b : DiagnosticBuffer) (d : Diagnostic) :
    (b.push d).entries = b.entries ++ [d] := rfl

@[simp] theorem failed_push (b : DiagnosticBuffer) (d : Diagnostic) :
    (b.push d).failed = b.failed := rfl

@[simp] theorem entries_fail (b : DiagnosticBuffer) (d : Diagnostic) :
    (b.fail d).entries = b.entries ++ [d] := rfl

@[simp] theorem failed_fail (b : DiagnosticBuffer) (d : Diagnostic) :
    (b.fail d).failed = true := rfl

@[simp] theorem flush_snd (b : DiagnosticBuffer) (shared : Diagnostics) :
    (b.flush shared).2 = shared ++ b.entries := rfl

end DiagnosticBuffer

end Companion

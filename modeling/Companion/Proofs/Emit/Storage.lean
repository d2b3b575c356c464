import Companion.Emit.Artifact
import Companion.Proofs.Text.Dictionary

/-! Sinks that keep texts under the names of files. -/

set_option autoImplicit false

namespace Companion

variable {σ : Type}

/-- A sink that accepts a text or not by the name of the file, and that holds under each name the
text it accepted last. -/
structure Sink.ByName (sink : Sink (StateM σ)) (verdict : String → Except String Unit)
    (text? : σ → String → Option String) : Prop where
  answer : ∀ file contents s, ((sink file contents).run s).1 = verdict file
  holds : ∀ file contents s other, text? ((sink file contents).run s).2 other =
    if other = file ∧ (verdict file).isOk = true then some contents else text? s other

namespace MemorySink

/-- What files in memory say to a write. -/
def verdict (refusal? : String → Option String) (file : String) : Except String Unit :=
  match refusal? file with
  | some reason => .error reason
  | none => .ok ()

theorem isOk_verdict (refusal? : String → Option String) (file : String) :
    (verdict refusal? file).isOk = (refusal? file).isNone := by
  unfold verdict
  cases refusal? file <;> rfl

/-- Files in memory are kept by name. -/
theorem byName (refusal? : String → Option String) :
    (sink refusal?).ByName (verdict refusal?) get? where
  answer file contents s := by
    simp only [sink, verdict]
    cases refusal? file <;> rfl
  holds file contents s other := by
    rw [isOk_verdict]
    simp only [sink]
    cases refusal? file with
    | some reason => simp; rfl
    | none =>
      simp only [Option.isNone_none, and_true]
      exact Dictionary.get?_insert ..

end MemorySink

end Companion

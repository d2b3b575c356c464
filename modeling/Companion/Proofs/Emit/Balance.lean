import Companion.Generate.Basic

/-! Sequences of steps that an emitter takes without an error.

Whether a step is allowed depends on the innermost open block alone, so sequences that leave the
open blocks as they found them can be put together freely.
-/

set_option autoImplicit false

namespace Companion.Emitter

/-- Steps that can be done inside a block of the kind, and leave the open blocks as they are. -/
def Balanced (outer : BlockKind) (steps : List Step) : Prop :=
  ∀ e : Emitter, e.current = outer →
    ∃ e', steps.foldlM step e = .ok e' ∧ e'.blocks = e.blocks

theorem current_congr {e e' : Emitter} (same : e'.blocks = e.blocks) : e'.current = e.current := by
  simp only [current, same]

@[simp] theorem blocks_write (e : Emitter) (text : String) : (e.write text).blocks = e.blocks :=
  rfl

variable {outer inner : BlockKind} {steps others : List Step} {s : Step}

namespace Balanced

theorem nil : Balanced outer [] := fun e _ => ⟨e, rfl, rfl⟩

theorem append (first : Balanced outer steps) (rest : Balanced outer others) :
    Balanced outer (steps ++ others) := by
  intro e inside
  obtain ⟨e₁, ran, same₁⟩ := first e inside
  obtain ⟨e₂, ran', same₂⟩ := rest e₁ ((current_congr same₁).trans inside)
  refine ⟨e₂, ?_, same₂.trans same₁⟩
  rw [List.foldlM_append, ran]
  exact ran'

theorem cons (first : Balanced outer [s]) (rest : Balanced outer steps) :
    Balanced outer (s :: steps) := first.append rest

theorem flatMap {α : Type} {f : α → List Step} {xs : List α}
    (each : ∀ x ∈ xs, Balanced outer (f x)) : Balanced outer (xs.flatMap f) := by
  induction xs with
  | nil => exact nil
  | cons x xs ih =>
    rw [List.flatMap_cons]
    exact (each x (by simp)).append (ih fun y member => each y (by simp [member]))

/-- Steps that are fine one by one are so together. -/
theorem of_singles (each : ∀ s ∈ steps, Balanced outer [s]) : Balanced outer steps := by
  have together := flatMap (f := fun s => [s]) each
  rwa [List.flatMap_singleton'] at together

/-- A step that succeeds and keeps the open blocks. -/
theorem of_step (takes : ∀ e : Emitter, e.current = outer →
    ∃ e', e.step s = .ok e' ∧ e'.blocks = e.blocks) : Balanced outer [s] := by
  intro e inside
  obtain ⟨e', ran, same⟩ := takes e inside
  refine ⟨e', ?_, same⟩
  rw [List.foldlM_cons, ran]
  rfl

theorem use (path : String) : Balanced outer [.use path] :=
  of_step fun e _ => ⟨e.use path, rfl, rfl⟩

theorem blank : Balanced outer [.blank] := by
  refine of_step fun e _ => ⟨e.blank, rfl, ?_⟩
  unfold Emitter.blank
  split
  · rfl
  · split <;> rfl

/-- A construct is allowed where its kind of block is the innermost one. -/
theorem allow_eq {e : Emitter} (what : Construct) (inside : e.current = outer)
    (allowed : what.allowedIn outer = true) : e.allow what = .ok () := by
  simp only [allow, inside, allowed, if_true]

theorem statement (text : String) (allowed : outer.holdsStatements = true) :
    Balanced outer [.statement text] := by
  refine of_step fun e inside => ⟨{ e.write text with lastClosed := none }, ?_, rfl⟩
  simp only [step, allow_eq .statement inside allowed]
  rfl

theorem item (text : String) (allowed : outer.holdsItems = true) :
    Balanced outer [.item text] := by
  refine of_step fun e inside => ⟨{ e.write text with lastClosed := none }, ?_, rfl⟩
  simp only [step, allow_eq .item inside allowed]
  rfl

theorem note (text : String) (allowed : (outer.holdsItems || outer == .struct) = true) :
    Balanced outer [.note text] := by
  refine of_step fun e inside => ⟨e.write text, ?_, blocks_write ..⟩
  simp only [step, allow_eq .note inside allowed]
  rfl

theorem field (text : String) : Balanced .struct [.field text] := by
  refine of_step fun e inside => ⟨e.write (withoutTrailing ',' text ++ ","), ?_, blocks_write ..⟩
  simp only [step, allow_eq .field inside rfl]
  rfl

/-- A block that may be opened is, unless it is an `else`: that depends on what was closed last. -/
theorem enter_spec {e : Emitter} (opener : String) (inside : e.current = outer)
    (allowed : outer.holds inner = true) (kind : inner ≠ .elseBlock) :
    ∃ e', e.step (.enter inner opener) = .ok e' ∧ e'.blocks = inner :: e.blocks := by
  have fine : e.allow (.block inner) = .ok () := allow_eq _ inside allowed
  simp only [step, enter, fine, if_neg kind]
  exact ⟨_, rfl, congrArg (inner :: ·) (blocks_write ..)⟩

theorem leave_spec {e : Emitter} {blocks : List BlockKind} (inside : e.blocks = inner :: blocks) :
    ∃ e', e.step .leave = .ok e' ∧ e'.blocks = blocks := by
  simp only [step, leave, inside]
  exact ⟨_, rfl, rfl⟩

/-- A block inside another one: whatever is inside is balanced there. -/
theorem block {opener : String} (allowed : outer.holds inner = true) (kind : inner ≠ .elseBlock)
    (content : Balanced inner steps) : Balanced outer (Generation.block inner opener steps) := by
  intro e inside
  obtain ⟨opened, entered, blocks⟩ := enter_spec opener inside allowed kind
  obtain ⟨filled, ran, same⟩ := content opened (by simp only [current, blocks, List.headD_cons])
  obtain ⟨closed, left, blocks'⟩ := leave_spec (same.trans blocks)
  refine ⟨closed, ?_, blocks'⟩
  -- The content runs in the block just opened, which is the one that is then closed.
  calc (Generation.block inner opener steps).foldlM step e
      = (steps ++ [Step.leave]).foldlM step opened := by
        rw [Generation.block, List.cons_append, List.foldlM_cons, entered]
        rfl
    _ = step filled Step.leave := by
        rw [List.foldlM_append, ran]
        exact bind_pure (step filled .leave)
    _ = .ok closed := left

end Balanced

/-- The unit of balanced steps is complete. -/
theorem unit_of_balanced (balanced : Balanced .module steps) : ∃ text, unit steps = .ok text := by
  obtain ⟨e, ran, same⟩ := balanced .empty rfl
  have closed : e.blocks = [] := same
  have whole : unit steps = e.finish := by
    rw [unit, ran]
    rfl
  simp only [whole, finish, closed, List.isEmpty_nil]
  exact ⟨_, rfl⟩

end Companion.Emitter

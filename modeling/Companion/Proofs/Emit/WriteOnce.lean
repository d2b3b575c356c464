import Companion.Emit.Artifact
import Mathlib.Data.List.Induction
import Mathlib.Data.List.TakeWhile

/-! Units that are filled and handed over by any calls, in any order.

A call changes a unit in place, and the change stands even if the call is refused later on. Sinks may
be different ones from call to call; they share a state, and what they are handed is kept.
-/

set_option autoImplicit false

namespace Companion

variable {σ : Type}

/-- How the state of a unit changes. -/
inductive ArtifactState.Moves : ArtifactState → ArtifactState → Prop where
  | filled (text : String) : Moves .empty (.populated text)
  | accepted (text : String) : Moves (.populated text) (.written text)
  | refused (text : String) : Moves (.populated text) (.failed text)

namespace Artifact

/-- A call on a unit; each may have a sink of its own. -/
inductive Call (σ : Type) where
  | populate (text : String)
  | write (sink : Sink (StateM σ))

namespace Call

def isWrite : Call σ → Bool
  | populate _ => false
  | write _ => true

def text? : Call σ → Option String
  | populate text => some text
  | write _ => none

/-- The same call, with a sink that keeps what it is handed. -/
def recorded : Call σ → Call (σ × List Attempt)
  | populate text => populate text
  | write sink => write sink.recorded

/-- Changes of a unit, which stand even if what comes after them is refused. -/
abbrev InPlace (σ : Type) := ExceptT EmitError (StateT Artifact (StateM σ))

/-- What becomes of a unit by what a sink says to it. -/
def settle (text : String) : Except String Unit → InPlace σ Unit
  | .ok () => modify fun a => { a with state := .written text }
  | .error reason => do
    modify fun a => { a with state := .failed text }
    throw (.sink (← getThe Artifact).fileName reason)

/-- Do a call, check by check and change by change. -/
def perform : Call σ → InPlace σ Unit
  | populate text => do
    let a ← get
    if a.state = .empty then set { a with state := .populated text }
    else throw (.alreadyPopulated a.outputName)
  | write sink => do
    let a ← get
    match a.state with
    | .empty => throw (.notPopulated a.outputName)
    | .populated text => settle text (← sink a.fileName text)
    | .written _ | .failed _ => throw (.alreadyWritten a.outputName)

variable (a : Artifact) (s : σ)

/-- Filling a unit gives the filled unit, or is refused and leaves the unit as it was. -/
theorem perform_populate (text : String) :
    ((perform (populate text)).run.run a).run s = match a.populate text with
      | .ok a' => ((.ok (), a'), s)
      | .error error => ((.error error, a), s) := by
  obtain ⟨kind, declaration, outputName, fileName, state⟩ := a
  cases state <;> rfl

theorem run_lift {α : Type} (x : StateM σ α) (next : α → InPlace σ Unit) :
    ((liftM x >>= next).run.run a).run s = ((next (x.run s).1).run.run a).run (x.run s).2 := rfl

/-- Handing a unit over is the same in place. -/
theorem perform_write (sink : Sink (StateM σ)) :
    ((perform (write sink)).run.run a).run s = (a.write sink).run s := by
  obtain ⟨kind, declaration, outputName, fileName, state⟩ := a
  cases state with
  | empty | written | failed => rfl
  | populated text =>
    change ((liftM (sink fileName text) >>= settle text : InPlace σ Unit).run.run _).run s = _
    rw [run_lift, Artifact.write]
    obtain ⟨verdict, s', said⟩ : ∃ verdict s', (sink fileName text).run s = (verdict, s') :=
      ⟨_, _, rfl⟩
    simp only [ready, StateT.run_bind, said]
    cases verdict <;> rfl

end Call

/-- The text that a unit is filled with first. -/
def firstText? (calls : List (Call σ)) : Option String := calls.findSome? Call.text?

/-- Whether a unit is handed over after it was filled. -/
def isHandedOver (calls : List (Call σ)) : Bool := (calls.dropWhile Call.isWrite).any Call.isWrite

/-- A unit after calls, with the state that sinks share and what they were handed. -/
structure Handled (σ : Type) where
  artifact : Artifact
  sinkState : σ
  attempts : List Attempt

namespace Handled

variable {h : Handled σ} {c : Call σ} {calls : List (Call σ)} {new : Artifact} {text : String}

/-- The answer to a call, and what the call leaves. -/
def call (h : Handled σ) (c : Call σ) : Except EmitError Unit × Handled σ :=
  let ((answer, artifact), sinkState, attempts) :=
    (c.recorded.perform.run.run h.artifact).run (h.sinkState, h.attempts)
  (answer, ⟨artifact, sinkState, attempts⟩)

/-- What calls leave, whatever the answers. -/
def after (h : Handled σ) (calls : List (Call σ)) : Handled σ :=
  calls.foldl (fun h c => (h.call c).2) h

theorem after_append (h : Handled σ) (calls later : List (Call σ)) :
    h.after (calls ++ later) = (h.after calls).after later := List.foldl_append

/-! ### One call -/

/-- What a sink is handed, and what becomes of the unit by its answer. -/
def handedOver (h : Handled σ) (text : String) (said : Except String Unit) (s : σ) : Handled σ where
  artifact := { h.artifact with state := if said.isOk then .written text else .failed text }
  sinkState := s
  attempts := h.attempts ++ [⟨h.artifact.fileName, text, said.isOk⟩]

theorem call_populate (h : Handled σ) (text : String) :
    h.call (.populate text) = match h.artifact.populate text with
      | .ok a => (.ok (), { h with artifact := a })
      | .error error => (.error error, h) := by
  rw [call, Call.recorded, Call.perform_populate]
  cases h.artifact.populate text <;> rfl

theorem call_write_of_populated (sink : Sink (StateM σ))
    (filled : h.artifact.state = .populated text) : ∃ said s, h.call (.write sink) =
      (said.mapError (.sink h.artifact.fileName), h.handedOver text said s) := by
  obtain ⟨said, s, answered⟩ : ∃ said s,
    (sink h.artifact.fileName text).run h.sinkState = (said, s) := ⟨_, _, rfl⟩
  have kept : (sink.recorded h.artifact.fileName text).run (h.sinkState, h.attempts) =
      (said, s, h.attempts ++ [⟨h.artifact.fileName, text, said.isOk⟩]) := by
    change sink.recorded h.artifact.fileName text (h.sinkState, h.attempts) = _
    rw [Sink.recorded, answered]
  refine ⟨said, s, ?_⟩
  rw [call, Call.recorded, Call.perform_write, Artifact.write, ready, filled]
  simp only [StateT.run_bind, kept]
  cases said <;> rfl

/-- Whether a unit is in the state that a call starts from. -/
def IsReady (h : Handled σ) : Call σ → Prop
  | .populate _ => h.artifact.state = .empty
  | .write _ => ∃ text, h.artifact.state = .populated text

/-- A call that a unit is not ready for leaves everything as it was. -/
theorem call_of_not_isReady (unready : ¬ h.IsReady c) :
    ∃ error : EmitError, (∀ file reason, error ≠ .sink file reason) ∧
      h.call c = (.error error, h) := by
  cases c with
  | populate text =>
    refine ⟨.alreadyPopulated h.artifact.outputName, nofun, ?_⟩
    rw [call_populate, Artifact.populate]
    cases state : h.artifact.state with
    | empty => exact absurd state unready
    | populated | written | failed => rfl
  | write sink =>
    obtain ⟨error, other, refused⟩ : ∃ error : EmitError,
        (∀ file reason, error ≠ .sink file reason) ∧ h.artifact.ready = .error error := by
      rw [ready]
      cases state : h.artifact.state with
      | populated text => exact absurd ⟨text, state⟩ unready
      | empty => exact ⟨.notPopulated _, nofun, rfl⟩
      | written | failed => exact ⟨.alreadyWritten _, nofun, rfl⟩
    refine ⟨error, other, ?_⟩
    rw [call, Call.recorded, Call.perform_write, Artifact.write, refused]
    rfl

/-- What a call does: it fills the unit, or hands it over, or leaves all as it was. -/
theorem call_cases (h : Handled σ) (c : Call σ) :
    (∃ text, c = .populate text ∧ h.artifact.state = .empty ∧
      h.call c = (.ok (), { h with artifact := { h.artifact with state := .populated text } })) ∨
    (∃ sink text said s, c = .write sink ∧ h.artifact.state = .populated text ∧
      h.call c = (said.mapError (.sink h.artifact.fileName), h.handedOver text said s)) ∨
    ¬ h.IsReady c ∧ ∃ error : EmitError, (∀ file reason, error ≠ .sink file reason) ∧
      h.call c = (.error error, h) := by
  by_cases ready : h.IsReady c
  · cases c with
    | populate text =>
      have state : h.artifact.state = .empty := ready
      exact .inl ⟨text, rfl, state, by rw [call_populate, Artifact.populate, state]⟩
    | write sink =>
      obtain ⟨text, state⟩ := ready
      obtain ⟨said, s, same⟩ := call_write_of_populated sink state
      exact .inr (.inl ⟨sink, text, said, s, rfl, state, same⟩)
  · exact .inr (.inr ⟨ready, call_of_not_isReady ready⟩)

/-! ### What every call preserves -/

/-- Where a unit is after calls, which follows from the calls and from what one sink said. -/
inductive Reached (new : Artifact) (calls : List (Call σ)) (h : Handled σ) : Prop where
  | empty (unfilled : firstText? calls = none)
      (artifact : h.artifact = { new with state := .empty }) (attempts : h.attempts = [])
  | populated (text : String) (filled : firstText? calls = some text)
      (kept : isHandedOver calls = false)
      (artifact : h.artifact = { new with state := .populated text }) (attempts : h.attempts = [])
  | settled (text : String) (isAccepted : Bool) (filled : firstText? calls = some text)
      (handed : isHandedOver calls = true)
      (artifact : h.artifact =
        { new with state := if isAccepted then .written text else .failed text })
      (attempts : h.attempts = [⟨new.fileName, text, isAccepted⟩])

theorem firstText?_append (calls later : List (Call σ)) :
    firstText? (calls ++ later) = (firstText? calls).or (firstText? later) :=
  List.findSome?_append

theorem firstText?_concat (calls : List (Call σ)) (c : Call σ) :
    firstText? (calls ++ [c]) = (firstText? calls).or c.text? := by
  rw [firstText?_append]
  cases c <;> rfl

/-- As long as a unit is not filled, nothing but attempts to hand it over has been made. -/
theorem dropWhile_eq_nil_iff : calls.dropWhile Call.isWrite = [] ↔ firstText? calls = none := by
  rw [List.dropWhile_eq_nil_iff, firstText?, List.findSome?_eq_none_iff]
  refine forall₂_congr fun c _ => ?_
  cases c <;> simp [Call.isWrite, Call.text?]

theorem isHandedOver_concat_of_unfilled (unfilled : firstText? calls = none) (c : Call σ) :
    isHandedOver (calls ++ [c]) = false := by
  have dropped := dropWhile_eq_nil_iff.mpr unfilled
  rw [isHandedOver, List.dropWhile_append, dropped]
  cases c <;> rfl

theorem isHandedOver_concat_of_filled (filled : firstText? calls = some text) (c : Call σ) :
    isHandedOver (calls ++ [c]) = (isHandedOver calls || c.isWrite) := by
  have some : calls.dropWhile Call.isWrite ≠ [] := by
    rw [Ne, dropWhile_eq_nil_iff, filled]
    exact Option.some_ne_none text
  rw [isHandedOver, List.dropWhile_append, if_neg (by simpa using some), List.any_append]
  simp [isHandedOver]

/-- What follows from the calls still does if one is refused. -/
theorem Reached.unready (reached : h.Reached new calls) (unready : ¬ h.IsReady c) :
    h.Reached new (calls ++ [c]) := by
  have text := firstText?_concat calls c
  cases reached with
  | empty unfilled artifact attempts =>
    cases c with
    | populate => exact absurd (by rw [IsReady, artifact]) unready
    | write => exact .empty (by rw [text, unfilled]; rfl) artifact attempts
  | populated first filled kept artifact attempts =>
    have handed := isHandedOver_concat_of_filled filled c
    cases c with
    | populate =>
      exact .populated first (by rw [text, filled]; rfl) (by rw [handed, kept]; rfl)
        artifact attempts
    | write => exact absurd ⟨first, by rw [artifact]⟩ unready
  | settled first isAccepted filled written artifact attempts =>
    have handed := isHandedOver_concat_of_filled filled c
    exact .settled first isAccepted (by rw [text, filled]; rfl) (by rw [handed, written]; rfl)
      artifact attempts

theorem Reached.call (reached : h.Reached new calls) (c : Call σ) :
    (h.call c).2.Reached new (calls ++ [c]) := by
  have texts := firstText?_concat calls c
  rcases call_cases h c with ⟨text, rfl, state, same⟩ | ⟨sink, text, said, s, rfl, state, same⟩ |
    ⟨unready, _, -, same⟩
  · rw [same]
    cases reached with
    | empty unfilled artifact attempts =>
      exact .populated text (by rw [texts, unfilled]; rfl)
        (isHandedOver_concat_of_unfilled unfilled _) (by rw [artifact]) attempts
    | populated _ _ _ artifact => simp [artifact] at state
    | settled _ isAccepted _ _ artifact => cases isAccepted <;> simp [artifact] at state
  · rw [same]
    cases reached with
    | empty _ artifact => simp [artifact] at state
    | populated first filled kept artifact attempts =>
      obtain rfl : first = text := by simpa [artifact] using state
      exact .settled first said.isOk (by rw [texts, filled]; rfl)
        (by rw [isHandedOver_concat_of_filled filled]; exact Bool.or_true _)
        (by rw [handedOver, artifact]) (by rw [handedOver, attempts, artifact]; rfl)
    | settled _ isAccepted _ _ artifact => cases isAccepted <;> simp [artifact] at state
  · rw [same]
    exact reached.unready unready

/-- A unit that no call has been made on. -/
def fresh (kind : ArtifactKind) (declaration outputName fileName : String) (s : σ) : Handled σ :=
  ⟨⟨kind, declaration, outputName, fileName, .empty⟩, s, []⟩

theorem reached_after (kind : ArtifactKind) (declaration outputName fileName : String) (s : σ)
    (calls : List (Call σ)) : ((fresh kind declaration outputName fileName s).after calls).Reached
      (fresh kind declaration outputName fileName s).artifact calls := by
  induction calls using List.reverseRecOn with
  | nil => exact .empty rfl rfl rfl
  | append_singleton calls c ih =>
    rw [after_append]
    exact ih.call c

/-- What is known after calls. -/
structure WrittenOnce (new : Artifact) (calls : List (Call σ)) (h : Handled σ) : Prop where
  /-- One call reaches a sink, which is the first one to hand the unit over when it is filled. -/
  attempts : h.attempts.length = if isHandedOver calls then 1 else 0
  handed : ∀ t ∈ h.attempts, t.file = new.fileName ∧ firstText? calls = some t.contents
  content : h.artifact.state.content = (firstText? calls).getD ""
  isEmpty_iff : h.artifact.state = .empty ↔ firstText? calls = none
  written_iff : (∃ text, h.artifact.state = .written text) ↔ ∃ t ∈ h.attempts, t.isAccepted = true
  failed_iff : (∃ text, h.artifact.state = .failed text) ↔ ∃ t ∈ h.attempts, t.isAccepted = false
  frame : { h.artifact with state := .empty } = { new with state := .empty }

theorem Reached.writtenOnce (reached : h.Reached new calls) : h.WrittenOnce new calls := by
  cases reached with
  | empty unfilled artifact attempts =>
    have kept : isHandedOver calls = false := by
      rw [isHandedOver, dropWhile_eq_nil_iff.mpr unfilled]
      rfl
    constructor <;> simp [unfilled, artifact, attempts, kept, ArtifactState.content]
  | populated text filled kept artifact attempts =>
    constructor <;> simp [filled, artifact, attempts, kept, ArtifactState.content]
  | settled text isAccepted filled handed artifact attempts =>
    cases isAccepted <;> constructor <;>
      simp [filled, artifact, attempts, handed, ArtifactState.content]

/-- What is known of one more call and its answer. -/
structure IsStep (h next : Handled σ) (answer : Except EmitError Unit) : Prop where
  moves : next.artifact.state = h.artifact.state ∨ h.artifact.state.Moves next.artifact.state
  unchanged : ∀ error, answer = .error error → (∀ file reason, error ≠ .sink file reason) → next = h

theorem isStep_call (h : Handled σ) (c : Call σ) : h.IsStep (h.call c).2 (h.call c).1 := by
  rcases call_cases h c with ⟨text, -, state, same⟩ | ⟨sink, text, said, s, -, state, same⟩ |
    ⟨-, error, -, same⟩
  · rw [same]
    exact ⟨.inr (state ▸ .filled text), nofun⟩
  · rw [same]
    cases said with
    | ok => exact ⟨.inr (state ▸ .accepted text), nofun⟩
    | error reason =>
      refine ⟨.inr (state ▸ .refused text), fun error told other => ?_⟩
      cases told
      exact absurd rfl (other _ _)
  · rw [same]
    exact ⟨.inl rfl, fun _ _ _ => rfl⟩

/-- A unit is filled once and handed over once, whatever calls are made and whatever sinks say. -/
theorem calls_write_once (kind : ArtifactKind) (declaration outputName fileName : String) (s : σ)
    (calls : List (Call σ)) (c : Call σ) :
    let new := fresh kind declaration outputName fileName s
    let h := new.after calls
    h.WrittenOnce new.artifact calls ∧ h.IsStep (h.call c).2 (h.call c).1 ∧
      ∀ text, firstText? calls = some text →
        ∀ later, (h.after later).artifact.state.content = text := by
  intro new h
  have known (calls : List (Call σ)) : (new.after calls).WrittenOnce new.artifact calls :=
    (reached_after kind declaration outputName fileName s calls).writtenOnce
  refine ⟨known calls, isStep_call h c, fun text filled later => ?_⟩
  calc (h.after later).artifact.state.content
    _ = (new.after (calls ++ later)).artifact.state.content := by rw [after_append]
    _ = (firstText? (calls ++ later)).getD "" := (known (calls ++ later)).content
    _ = text := by rw [firstText?_append, filled]; rfl

/-- The content stays through a later filling and a write that the sink refuses. -/
theorem calls_write_once_refused :
    let accept : Sink (StateM Unit) := fun _ _ => return .ok ()
    let refuse : Sink (StateM Unit) := fun _ _ => return .error "disk full"
    let calls : List (Call Unit) := [.write accept, .populate "struct A;"]
    let later : List (Call Unit) := [.populate "struct B;", .write refuse, .write accept]
    let h := (fresh .subclass "a" "ASubclass" "a_subclass.rs" ()).after calls
    firstText? calls = some "struct A;" ∧
      (h.after later).artifact.state.content = "struct A;" ∧
      (h.after later).attempts = [⟨"a_subclass.rs", "struct A;", false⟩] :=
  ⟨rfl, (calls_write_once .subclass "a" "ASubclass" "a_subclass.rs" () _
    (.populate "struct B;")).2.2 _ rfl _, rfl⟩

end Handled

end Artifact

end Companion

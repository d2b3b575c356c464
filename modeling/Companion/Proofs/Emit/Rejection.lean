import Companion.Proofs.Emit.Layout
import Mathlib.Data.List.Induction

/-! Emitters that are changed in place.

A step makes its checks and its changes one after the other, and one that is refused on the way leaves
the emitter as far as it had come. No step changes anything before its last check, so that refused
steps leave no trace.
-/

set_option autoImplicit false

namespace Companion.Emitter

/-- Changes of an emitter, which stand even if what comes after them is refused. -/
abbrev InPlace := ExceptT EmitError (StateM Emitter)

namespace InPlace

def check (what : Construct) : InPlace Unit := do ofExcept ((← get).allow what)

def setBlocks (blocks : List BlockKind) : InPlace Unit := modify ({ · with blocks })

def setClosed (lastClosed : Option BlockKind) : InPlace Unit := modify ({ · with lastClosed })

/-- Go on in the last line, which has to be the end of an `if`. -/
def goOn : InPlace Unit := do
  if (← get).lastClosed = some .ifBlock then
    modify fun e => { e with lines := e.lines.modifyHead (· ++ " else \x7b") }
  else throw .danglingElse

/-- Do one step, check by check and change by change. -/
def perform : Step → InPlace Unit
  | .use path => modify (·.use path)
  | .enter kind opener => do
    check (.block kind)
    if kind = .elseBlock then goOn else modify (·.write (opening opener))
    setBlocks (kind :: (← get).blocks)
    setClosed none
  | .leave => do
    match (← get).blocks with
    | [] => throw .unexpectedEnd
    | kind :: blocks =>
      setBlocks blocks
      modify (·.write "\x7d")
      setClosed (some kind)
  | .statement text => do
    check .statement
    modify (·.write text)
    setClosed none
  | .field text => do
    check .field
    modify (·.write (withoutTrailing ',' text ++ ","))
  | .note text => do
    check .note
    modify (·.write text)
  | .item text => do
    check .item
    modify (·.write text)
    setClosed none
  | .blank => modify (·.blank)

end InPlace

/-- The answer to a step, and the emitter that it leaves. -/
def act (e : Emitter) (s : Step) : Except EmitError Unit × Emitter := (InPlace.perform s).run.run e

variable {e e' : Emitter} {s : Step} {steps : List Step}

/-- What comes after a check is done if the check succeeds, on the emitter that it was made on. -/
theorem run_check (what : Construct) (next : InPlace Unit) (e : Emitter) :
    (InPlace.check what >>= fun _ => next).run.run e =
      match e.allow what with
      | .ok () => next.run.run e
      | .error error => (.error error, e) := by
  change ((do ofExcept (e.allow what); next : InPlace Unit).run.run e) = _
  cases e.allow what <;> rfl

theorem run_modify (f : Emitter → Emitter) (next : InPlace Unit) (e : Emitter) :
    (modify f >>= fun _ => next : InPlace Unit).run.run e = next.run.run (f e) := rfl

theorem run_goOn (next : InPlace Unit) (e : Emitter) :
    (InPlace.goOn >>= fun _ => next).run.run e =
      if e.lastClosed = some .ifBlock then
        next.run.run { e with lines := e.lines.modifyHead (· ++ " else \x7b") }
      else (.error .danglingElse, e) := by
  change (((if e.lastClosed = some .ifBlock then _ else _ : InPlace Unit) >>= fun _ =>
    next).run.run e) = _
  split <;> rfl

/-- A step gives the emitter that it leaves, or it is refused and leaves the emitter as it was. -/
theorem act_eq (e : Emitter) (s : Step) :
    e.act s = match e.step s with
      | .ok e' => (.ok (), e')
      | .error error => (.error error, e) := by
  cases s with
  | use | blank => rfl
  | leave =>
    obtain ⟨paths, lines, blocks, closed⟩ := e
    cases blocks <;> rfl
  | statement | field | note | item =>
    rw [act, InPlace.perform, run_check, step]
    cases e.allow _ <;> rfl
  | enter kind opener =>
    rw [act, InPlace.perform, run_check, step, enter]
    cases e.allow (.block kind) with
    | error => rfl
    | ok =>
      by_cases isElse : kind = .elseBlock
      · simp only [if_pos isElse, run_goOn]
        by_cases follows : e.lastClosed = some .ifBlock
        · rw [if_pos follows, if_neg (not_not.mpr follows)]
          cases e.lines <;> rfl
        · rw [if_neg follows, if_pos follows]
          rfl
      · simp only [if_neg isElse, run_modify]
        -- What is written does not matter for what is done after it.
        generalize e.write (opening opener) = written
        rfl

/-! ### Sequences of steps -/

/-- A step with the answer to it. -/
abbrev Answered := Step × Except EmitError Unit

/-- Do steps one after the other, whatever becomes of each: the steps with their answers, and the
emitter at the end. -/
def history (e : Emitter) : List Step → List Answered × Emitter
  | [] => ([], e)
  | s :: others =>
    let (answer, e) := e.act s
    let (answered, e) := e.history others
    ((s, answer) :: answered, e)

/-- The steps that were not refused. -/
def accepted (answered : List Answered) : List Answered := answered.filter (·.2.isOk)

/-- The emitter after steps, whatever becomes of each. -/
def through (e : Emitter) (steps : List Step) : Emitter := (e.history steps).2

variable {e e' : Emitter} {s : Step} {steps others : List Step} {error : EmitError}

theorem act_of_ok (taken : e.step s = .ok e') : e.act s = (.ok (), e') := by rw [act_eq, taken]

theorem act_of_error (refused : e.step s = .error error) : e.act s = (.error error, e) := by
  rw [act_eq, refused]

theorem history_of_ok (taken : e.step s = .ok e') :
    e.history (s :: others) = ((s, .ok ()) :: (e'.history others).1, (e'.history others).2) := by
  rw [history, act_of_ok taken]

theorem history_of_error (refused : e.step s = .error error) :
    e.history (s :: others) = ((s, .error error) :: (e.history others).1, (e.history others).2) := by
  rw [history, act_of_error refused]

/-- The steps that are accepted in a history are accepted without the others, and lead to the same
emitter. -/
theorem history_accepted (e : Emitter) (steps : List Step) :
    e.history ((accepted (e.history steps).1).map Prod.fst) =
      (accepted (e.history steps).1, (e.history steps).2) := by
  induction steps generalizing e with
  | nil => rfl
  | cons s others ih =>
    cases answer : e.step s with
    | ok e' =>
      rw [history_of_ok answer]
      have kept : accepted ((s, .ok ()) :: (e'.history others).1) =
        (s, .ok ()) :: accepted (e'.history others).1 := rfl
      rw [kept, List.map_cons, history_of_ok answer, ih e']
    | error error =>
      rw [history_of_error answer]
      exact ih e

/-- Refused steps leave no trace. Without them the others get the same answers and lead to the same
emitter, with its imports, lines, open blocks and what was closed last, and so to the same unit. -/
theorem refused_without_trace (e : Emitter) (steps : List Step) :
    let whole := e.history steps
    let kept := e.history ((accepted whole.1).map Prod.fst)
    kept.1 = accepted whole.1 ∧ kept.2 = whole.2 ∧ kept.2.finish = whole.2.finish ∧
      ∀ s, (e.act s).1.isOk = true ∨ (e.act s).2 = e := by
  intro whole kept
  have same : kept = (accepted whole.1, whole.2) := e.history_accepted steps
  refine ⟨by rw [same], by rw [same], by rw [same], fun s => ?_⟩
  cases answer : e.step s with
  | ok e' =>
    left
    rw [act_of_ok answer]
    rfl
  | error error =>
    right
    rw [act_of_error answer]

/-- A statement in a struct is refused, and the field after it is still taken. -/
example : (empty.history [.enter .struct "struct P", .statement "x;", .field "x: i64", .leave]).1.map
    (·.2.isOk) = [true, false, true, true] := by decide +kernel

theorem through_append (e : Emitter) (steps others : List Step) :
    e.through (steps ++ others) = (e.through steps).through others := by
  induction steps generalizing e with
  | nil => rfl
  | cons s steps ih => exact ih (e.act s).2

theorem through_singleton (e : Emitter) (s : Step) : e.through [s] = (e.act s).2 := rfl

theorem through_concat_of_ok (taken : (e.through steps).step s = .ok e') :
    e.through (steps ++ [s]) = e' := by
  rw [through_append, through_singleton, act_of_ok taken]

theorem through_concat_of_error (refused : (e.through steps).step s = .error error) :
    e.through (steps ++ [s]) = e.through steps := by
  rw [through_append, through_singleton, act_of_error refused]

/-- What every step that is accepted preserves holds after all steps, whatever becomes of each. -/
theorem through_induction {P : Emitter → Prop} (start : P e)
    (step : ∀ {e s e'}, P e → Emitter.step e s = .ok e' → P e') (steps : List Step) :
    P (e.through steps) := by
  induction steps using List.reverseRecOn with
  | nil => exact start
  | append_singleton earlier s ih =>
    cases answer : (e.through earlier).step s with
    | error error => rwa [through_concat_of_error answer]
    | ok e' =>
      rw [through_concat_of_ok answer]
      exact step ih answer

end Companion.Emitter

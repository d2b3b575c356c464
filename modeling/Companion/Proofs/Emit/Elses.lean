import Companion.Proofs.Emit.Balance
import Companion.Proofs.Emit.Forest
import Companion.Proofs.Emit.Rejection

/-! Where an `else` goes on. -/

set_option autoImplicit false

namespace Companion.Emitter

variable {e e' : Emitter} {s : Step} {kind : BlockKind} {opener : String} {error : EmitError}
  {steps before between : List Step}

/-- The line that closes a block at a depth. -/
def closing (depth : Nat) : String := String.ofList (List.replicate (4 * depth) ' ') ++ "\x7d"

/-- A step that leaves open blocks and what was closed last as they are, where statements can stand:
a path that is brought into scope, a blank line, or what is refused. -/
def IsIdle (e : Emitter) (s : Step) : Prop :=
  s = .blank ∨ (∃ path, s = .use path) ∨ ∃ error, e.step s = .error error

theorem current_after (e : Emitter) (paths : List String) (entries : List Entry)
    (closed : Option BlockKind) : (e.after paths entries closed).current = e.current := by
  rw [current, current, after]

theorem ofText_closing (depth : Nat) : Entry.ofText depth "\x7d" = [.line (closing depth)] := rfl

theorem closing_ne_empty (depth : Nat) : closing depth ≠ "" := by simp [closing]

theorem step_leave_eq {blocks : List BlockKind} (isOpen : e.blocks = kind :: blocks)
    (left : e.step .leave = .ok e') :
    e' = ⟨e.paths, closing blocks.length :: e.lines, blocks, some kind⟩ := by
  rw [(step_leave isOpen).mp left]
  simp [after, ofText_closing, Entry.extend]

/-- Whether a step is refused depends on the open blocks and on what was closed last. -/
theorem step_error_congr (blocks : e'.blocks = e.blocks) (closed : e'.lastClosed = e.lastClosed) :
    e'.step s = .error error ↔ e.step s = .error error := by
  have allow (what : Construct) : e'.allow what = e.allow what := by
    rw [Emitter.allow, Emitter.allow, current_congr blocks]
  cases s with
  | use | blank => simp [step]
  | leave =>
    rw [step, step, leave, leave, blocks]
    cases e.blocks <;> simp
  | statement | field | note | item =>
    rw [step, step, allow]
    cases e.allow _ <;> simp [bind, Except.bind, pure, Except.pure]
  | enter kind opener =>
    rw [step, step, enter, enter, allow, closed]
    cases e.allow (.block kind) with
    | error => exact Iff.rfl
    | ok =>
      by_cases isElse : kind = .elseBlock
      · by_cases follows : e.lastClosed = some .ifBlock
        · simp [bind, Except.bind, pure, Except.pure, isElse, follows]
        · simp [bind, Except.bind, throw, throwThe, MonadExceptOf.throw, isElse, follows]
      · simp [bind, Except.bind, pure, Except.pure, isElse]

theorem IsIdle.congr (blocks : e'.blocks = e.blocks) (closed : e'.lastClosed = e.lastClosed)
    (idle : e.IsIdle s) : e'.IsIdle s :=
  idle.imp_right (Or.imp_right (Exists.imp fun _ => (step_error_congr blocks closed).mpr))

/-- What is known of an emitter, and of the steps that led to it, where a block was just closed. -/
structure JustClosed (kind : BlockKind) (e : Emitter) (steps before between : List Step) : Prop where
  steps_eq : steps = before ++ .leave :: between
  blocks : (empty.through before).blocks = kind :: e.blocks
  idle : ∀ s ∈ between, e.IsIdle s
  lines : e.lines = (if .blank ∈ between then [""] else []) ++
    closing e.blocks.length :: (empty.through before).lines

/-- The step: one more idle step that adds no line. -/
theorem JustClosed.idle_step (known : e.JustClosed kind steps before between)
    (blocks : e'.blocks = e.blocks) (closed : e'.lastClosed = e.lastClosed)
    (lines : e'.lines = e.lines) (idle : e'.IsIdle s) (noBlank : s ≠ .blank) :
    e'.JustClosed kind (steps ++ [s]) before (between ++ [s]) where
  steps_eq := by rw [known.steps_eq, List.append_assoc, List.cons_append]
  blocks := known.blocks.trans (congrArg (kind :: ·) blocks.symm)
  idle := by
    refine List.forall_mem_append.mpr ⟨fun t member => ?_, List.forall_mem_singleton.mpr idle⟩
    exact (known.idle t member).congr blocks closed
  lines := by
    rw [lines, blocks, known.lines]
    simp [noBlank.symm]

/-- The step: a blank line, of which only the first is added. -/
theorem JustClosed.blank_step (known : e.JustClosed kind steps before between) :
    e.blank.JustClosed kind (steps ++ [.blank]) before (between ++ [.blank]) := by
  have added : e.blank.lines =
      "" :: closing e.blocks.length :: (empty.through before).lines := by
    have lines := known.lines
    by_cases already : .blank ∈ between
    · rw [if_pos already] at lines
      simp [Emitter.blank, lines]
    · rw [if_neg already] at lines
      simp [Emitter.blank, lines, closing_ne_empty]
  have blocks : e.blank.blocks = e.blocks := by rw [blank_eq]; rfl
  have closed : e.blank.lastClosed = e.lastClosed := by rw [blank_eq]; rfl
  exact {
    steps_eq := by rw [known.steps_eq, List.append_assoc, List.cons_append]
    blocks := known.blocks.trans (congrArg (kind :: ·) blocks.symm)
    idle := List.forall_mem_append.mpr ⟨fun t member => (known.idle t member).congr blocks closed,
      List.forall_mem_singleton.mpr (.inl rfl)⟩
    lines := by rw [added, blocks]; simp }

/-- Where statements can stand, no field and no note can. -/
theorem not_standsIn_of_place {outer : BlockKind} (place : outer ∈ BlockKind.elseBlock.places)
    (text : String) : ¬(Step.field text).StandsIn outer ∧ ¬(Step.note text).StandsIn outer := by
  cases outer <;> simp [BlockKind.places, Step.StandsIn] at place ⊢

/-- What was closed last, among statements, was closed by the last step that was not idle. -/
theorem exists_justClosed (closed : (empty.through steps).lastClosed = some kind)
    (place : (empty.through steps).current ∈ BlockKind.elseBlock.places) :
    ∃ before between, (empty.through steps).JustClosed kind steps before between := by
  -- Induction on the last step: only a `use`, a blank line or a refused step leaves what was
  -- closed last as it stood, and each of them extends what stands between.
  induction steps using List.reverseRecOn with
  | nil => cases closed
  | append_singleton earlier s ih =>
    cases answer : (empty.through earlier).step s with
    | error error =>
      rw [through_concat_of_error answer] at closed place ⊢
      obtain ⟨before, between, known⟩ := ih closed place
      have noBlank : s ≠ .blank := by rintro rfl; cases answer
      exact ⟨before, between ++ [s],
        known.idle_step rfl rfl rfl (.inr (.inr ⟨error, answer⟩)) noBlank⟩
    | ok e' =>
      rw [through_concat_of_ok answer] at closed place ⊢
      generalize known : empty.through earlier = e at *
      cases s with
      | enter =>
        obtain ⟨-, rfl⟩ := step_enter.mp answer
        cases closed
      | statement text | item text =>
        obtain ⟨-, same⟩ := (step_plain rfl).mp answer
        rw [same] at closed
        cases closed
      | field text =>
        obtain ⟨stands, rfl⟩ := (step_plain rfl).mp answer
        rw [current_after] at place
        exact absurd stands (not_standsIn_of_place place text).1
      | note text =>
        obtain ⟨stands, rfl⟩ := (step_plain rfl).mp answer
        rw [current_after] at place
        exact absurd stands (not_standsIn_of_place place text).2
      | use path =>
        cases answer
        obtain ⟨before, between, known⟩ := ih closed place
        have one : (e.use path).JustClosed kind (earlier ++ [.use path]) before
            (between ++ [.use path]) :=
          known.idle_step rfl rfl rfl (.inr (.inl ⟨path, rfl⟩)) (by simp)
        exact ⟨before, _, one⟩
      | blank =>
        cases answer
        rw [blank_eq] at closed place
        obtain ⟨before, between, known⟩ := ih closed place
        exact ⟨before, between ++ [.blank], known.blank_step⟩
      | leave =>
        cases isOpen : e.blocks with
        | nil =>
          rw [step, leave, isOpen] at answer
          cases answer
        | cons inner blocks =>
          obtain rfl := step_leave_eq isOpen answer
          obtain rfl : inner = kind := Option.some.inj closed
          exact ⟨earlier, [], rfl, by rw [known, isOpen], by simp, by rw [known]; rfl⟩

/-! ### Lines that stay -/

/-- Lines that no later step goes on in: there are others below them if an `else` may come next. -/
def Holds (base : List String) (e : Emitter) : Prop :=
  ∃ below, e.lines = below ++ base ∧ (e.lastClosed = some .ifBlock → below ≠ [])

variable {base : List String}

theorem Holds.of_suffix (holds : Holds base e) (more : List String) (lines : e'.lines = more ++ e.lines)
    (closed : e'.lastClosed = some .ifBlock → e.lastClosed = some .ifBlock ∨ more ≠ []) :
    Holds base e' := by
  obtain ⟨below, same, some⟩ := holds
  refine ⟨more ++ below, by rw [lines, same, List.append_assoc], fun isIf => ?_⟩
  rcases closed isIf with before | added
  · exact List.append_ne_nil_of_right_ne_nil _ (some before)
  · exact List.append_ne_nil_of_left_ne_nil added _

theorem lines_inside_else (e : Emitter) (opener : String) :
    (e.inside .elseBlock opener).lines = e.lines.modifyHead (· ++ " else \x7b") := by
  cases lines : e.lines with
  | nil => simp [inside, after, Step.openingEntries, lines, Entry.extend]
  | cons last above => simp [inside, after, Step.openingEntries, lines, Entry.extend]

/-- What is no `else` adds lines below those that there are. -/
theorem exists_lines_inside (e : Emitter) (opener : String) (other : kind ≠ .elseBlock) :
    ∃ more, (e.inside kind opener).lines = more ++ e.lines := by
  rw [inside, Step.openingEntries, if_neg other]
  simp only [after, Entry.foldl_extend_ofText, List.reverse_append, List.reverse_reverse]
  exact ⟨_, rfl⟩

theorem exists_lines_after (e : Emitter) (isPlain : s.IsPlain = true) :
    ∃ more, (e.after (Step.used [s]) (s.entries e.blocks.length) (s.closes e.lastClosed)).lines =
      more ++ e.lines := by
  cases s with
  | enter | leave => cases isPlain
  | use => exact ⟨[], List.reverse_reverse _⟩
  | blank =>
    simp only [after, Step.entries, List.foldl_cons, List.foldl_nil, Entry.extend]
    split
    · exact ⟨[], List.reverse_reverse _⟩
    · exact ⟨[""], by simp⟩
  | statement text | note text | item text | field text =>
    simp only [after, Step.entries, Entry.foldl_extend_ofText, List.reverse_append,
      List.reverse_reverse]
    exact ⟨_, rfl⟩

theorem Holds.plain_step (holds : Holds base e) (isPlain : s.IsPlain = true)
    (taken : e.step s = .ok e') : Holds base e' := by
  obtain ⟨-, rfl⟩ := (step_plain isPlain).mp taken
  obtain ⟨more, lines⟩ := e.exists_lines_after isPlain
  refine holds.of_suffix more lines fun isIf => .inl ?_
  change s.closes e.lastClosed = _ at isIf
  cases s <;> first | exact isIf | cases isIf

theorem Holds.step (holds : Holds base e) (taken : e.step s = .ok e') : Holds base e' := by
  cases s with
  | enter kind opener =>
    obtain ⟨⟨-, follows⟩, rfl⟩ := step_enter.mp taken
    by_cases isElse : kind = .elseBlock
    · subst isElse
      obtain ⟨below, same, some⟩ := holds
      obtain ⟨last, below, rfl⟩ := List.exists_cons_of_ne_nil (some (follows rfl))
      rw [List.cons_append] at same
      exact ⟨_ :: below, by rw [lines_inside_else, same]; rfl, nofun⟩
    · obtain ⟨more, lines⟩ := e.exists_lines_inside opener isElse
      exact holds.of_suffix more lines nofun
  | leave =>
    cases isOpen : e.blocks with
    | nil =>
      rw [Emitter.step, leave, isOpen] at taken
      cases taken
    | cons inner blocks =>
      obtain rfl := step_leave_eq isOpen taken
      exact holds.of_suffix [closing blocks.length] rfl fun _ => .inr (List.cons_ne_nil _ _)
  | use | blank | statement | field | note | item => exact holds.plain_step rfl taken

/-- The run: whatever the steps, and whatever becomes of each. -/
theorem Holds.through (holds : Holds base e) (steps : List Step) : Holds base (e.through steps) :=
  through_induction holds Holds.step steps

/-! ### Finished units -/

/-- Lines with a terminator after each. -/
def ofLines (lines : List String) : String := String.join (lines.map (· ++ "\n"))

/-- No line holds a terminator. -/
def IsClean (e : Emitter) : Prop := ∀ l ∈ e.lines, '\n' ∉ l.toList

theorem isClean_after (clean : e.IsClean) (paths : List String) {entries : List Entry}
    (each : ∀ entry ∈ entries, entry.IsClean) (closed : Option BlockKind) :
    (e.after paths entries closed).IsClean := by
  intro l member
  refine Entry.clean_foldl each (fun l member => ?_) l (List.mem_reverse.mp member)
  exact clean l (List.mem_reverse.mp member)

theorem IsClean.step (clean : e.IsClean) (taken : e.step s = .ok e') : e'.IsClean := by
  cases s with
  | enter kind opener =>
    obtain ⟨-, rfl⟩ := step_enter.mp taken
    exact isClean_after clean [] Step.isClean_openingEntries none
  | leave =>
    cases isOpen : e.blocks with
    | nil =>
      rw [Emitter.step, leave, isOpen] at taken
      cases taken
    | cons inner blocks =>
      obtain rfl := (step_leave isOpen).mp taken
      exact isClean_after clean [] (fun _ => Entry.isClean_ofText) (some inner)
  | use | blank | statement | field | note | item =>
    obtain ⟨-, rfl⟩ := (step_plain rfl).mp taken
    exact isClean_after clean _ (Step.isClean_entries _) _

theorem IsClean.through (clean : e.IsClean) (steps : List Step) : (e.through steps).IsClean :=
  through_induction clean IsClean.step steps

theorem ofLines_append (lines others : List String) :
    ofLines (lines ++ others) = ofLines lines ++ ofLines others := by
  simp [ofLines]

theorem intercalate_eq_ofLines {lines : List String} (some : lines ≠ []) :
    "\n".intercalate lines ++ "\n" = ofLines lines := by
  induction lines with
  | nil => exact absurd rfl some
  | cons line others ih =>
    cases others with
    | nil => simp [ofLines]
    | cons next others =>
      have rest := ih (List.cons_ne_nil next others)
      rw [String.intercalate_cons_cons, String.append_assoc, String.append_assoc, rest]
      simp [ofLines, String.append_assoc]

/-- A finished unit has its lines in order, and all up to one that is not empty. -/
theorem finish_eq_ofLines (clean : e.IsClean) {text : String} (finished : e.finish = .ok text)
    {above below : List String} {line : String} (ink : line ≠ "")
    (lines : e.lines = below ++ line :: above) :
    ∃ rest, text = Part.importText e.paths ++ ofLines (above.reverse ++ line :: rest) := by
  have kept : e.lines.reverse.rdropWhile String.isEmpty =
      above.reverse ++ line :: (below.dropWhile String.isEmpty).reverse := by
    rw [List.rdropWhile_reverse, lines, List.dropWhile_append]
    have stop : (line :: above).dropWhile String.isEmpty = line :: above :=
      List.dropWhile_cons_of_neg (by simpa using ink)
    split
    · next none => simp [stop, List.isEmpty_iff.mp none]
    · simp
  refine ⟨(below.dropWhile String.isEmpty).reverse, ?_⟩
  have unfed : ∀ l ∈ e.lines.reverse, '\n' ∉ l.toList := fun l member =>
    clean l (List.mem_reverse.mp member)
  have trimmed := withoutTrailing_intercalate unfed
  unfold finish at finished
  split at finished
  · cases finished
  · simp only [trimmed, kept, Except.ok.injEq] at finished
    rw [← finished, Part.importText, String.append_assoc, intercalate_eq_ofLines (by simp)]

/-! ### Where an `else` goes on -/

/-- The lines of an `else` at a depth, with the brace that it should follow, after the steps between
the two. -/
def elseLines (depth : Nat) (between : List Step) : List String :=
  if .blank ∈ between then [closing depth, " else \x7b"] else [closing depth ++ " else \x7b"]

/-- What is known where an `else` was opened: the `if` that it belongs to was closed by the last step
that was not idle, the `else` is with the brace of that `if`, and it stays there. -/
structure ElseFollows (steps : List Step) (e' : Emitter) (before between : List Step) : Prop where
  steps_eq : steps = before ++ .leave :: between
  belongs : (empty.through before).blocks = .ifBlock :: (empty.through steps).blocks
  idle : ∀ s ∈ between, (empty.through steps).IsIdle s
  closed : (empty.through (before ++ [.leave])).lines.reverse =
    (empty.through before).lines.reverse ++ [closing (empty.through steps).blocks.length]
  goesOn : e'.lines.reverse = (empty.through before).lines.reverse ++
    elseLines (empty.through steps).blocks.length between
  stays : ∀ later text, (e'.through later).finish = .ok text →
    ∃ rest, text = Part.importText (e'.through later).paths ++ ofLines (e'.lines.reverse ++ rest)

/-- Lines that an `else` was opened with are those of every unit that is finished later. -/
theorem exists_rest_of_finish (clean : e.IsClean) (fresh : e.lastClosed = none)
    {line : String} {above : List String} (ink : line ≠ "") (lines : e.lines = line :: above)
    {later : List Step} {text : String} (finished : (e.through later).finish = .ok text) :
    ∃ rest, text = Part.importText (e.through later).paths ++ ofLines (e.lines.reverse ++ rest) := by
  have kept : Holds (line :: above) e := ⟨[], lines, by simp [fresh]⟩
  obtain ⟨below, same, -⟩ := kept.through later
  obtain ⟨rest, whole⟩ := finish_eq_ofLines (clean.through later) finished ink same
  refine ⟨rest, ?_⟩
  rw [whole, lines, List.reverse_cons, List.append_assoc, List.singleton_append]

/-- Whatever the steps before, of which some may be refused: an `else` goes on in the line that
closes its `if`, unless a blank line was asked for between the two. Then it stands below the brace, in
what was to be the blank line, and so it does in every unit. -/
theorem else_follows (steps : List Step) (opener : String) (e' : Emitter)
    (entered : (empty.through steps).step (.enter .elseBlock opener) = .ok e') :
    ∃ before between, ElseFollows steps e' before between := by
  obtain ⟨⟨place, follows⟩, same⟩ := step_enter.mp entered
  obtain ⟨before, between, known⟩ := exists_justClosed (follows rfl) place
  have left := (step_leave known.blocks).mpr rfl
  have lines : e'.lines = ((if .blank ∈ between then [""] else []) ++
      closing (empty.through steps).blocks.length ::
        (empty.through before).lines).modifyHead (· ++ " else \x7b") := by
    rw [same, lines_inside_else, known.lines]
  have clean : e'.IsClean := (IsClean.through (e := empty) nofun steps).step entered
  refine ⟨before, between, known.steps_eq, known.blocks, known.idle, ?_, ?_, fun _ _ finished => ?_⟩
  · rw [through_concat_of_ok left, step_leave_eq known.blocks left, List.reverse_cons]
  · rw [lines, elseLines]
    by_cases blank : .blank ∈ between <;> simp [blank]
  · have fresh : e'.lastClosed = none := by rw [same]; rfl
    by_cases blank : .blank ∈ between
    · rw [if_pos blank] at lines
      exact exists_rest_of_finish clean fresh (by simp) lines finished
    · rw [if_neg blank] at lines
      exact exists_rest_of_finish clean fresh (by simp) lines finished

/-- A blank line between an `if` and its `else`. -/
theorem else_follows_blank :
    let steps : List Step :=
      [.enter .function "fn f()", .enter .ifBlock "if a", .leave, .field "b", .blank]
    let e' : Emitter := ⟨[], [" else \x7b", "    \x7d", "    if a \x7b", "fn f() \x7b"],
      [.elseBlock, .function], none⟩
    (empty.through steps).step (.enter .elseBlock "") = .ok e' ∧
      (e'.through [.leave, .leave]).finish =
        .ok "fn f() \x7b\n    if a \x7b\n    \x7d\n else \x7b\n    \x7d\n\x7d\n" ∧
      ∃ before between, ElseFollows steps e' before between :=
  ⟨by decide +kernel, by decide +kernel, else_follows _ "" _ (by decide +kernel)⟩

end Companion.Emitter

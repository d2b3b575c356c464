import Companion.Generate.Basic
import Companion.Proofs.Emit.Functions
import Companion.Proofs.Results

/-! What single steps add to a unit, and which steps a block takes. -/

set_option autoImplicit false

namespace Companion

/-! ### Places -/

namespace BlockKind

/-- The blocks that a block of the kind can be directly in. -/
def places : BlockKind → List BlockKind
  | module | struct | impl => [module]
  | function => [module, impl]
  | ifBlock | elseBlock | plain => [function, ifBlock, elseBlock, plain]

theorem holds_iff_mem_places (outer inner : BlockKind) :
    outer.holds inner = true ↔ outer ∈ inner.places := by
  cases outer <;> cases inner <;> decide

end BlockKind

/-- Whether a step that is not about blocks can be done directly in a block. -/
def Step.StandsIn (outer : BlockKind) : Step → Prop
  | statement _ => outer ∈ [.function, .ifBlock, .elseBlock, .plain]
  | item _ => outer ∈ [.module, .impl]
  | field _ => outer = .struct
  | note _ => outer ∈ [.module, .impl, .struct]
  | use _ | blank | enter .. | leave => True

/-! ### Lines -/

/-- What is added below the lines of a unit. -/
inductive Entry where
  | line (text : String)
  /-- An empty line, unless there is one already or nothing before it. -/
  | gap
  /-- More of the line before. -/
  | tail (text : String)
  deriving DecidableEq, Repr

namespace Entry

/-- Lines with an entry below them. -/
def extend (lines : List String) : Entry → List String
  | line text => lines ++ [text]
  | gap => if lines.getLast?.getD "" = "" then lines else lines ++ [""]
  | tail text => lines.dropLast ++ (lines.getLast?.map (· ++ text)).toList

/-- The lines of a text, each after four spaces for every open block unless it is blank. -/
def ofText (depth : Nat) (text : String) : List Entry :=
  (Text.lines text).map fun l => .line (Emitter.indentLine depth l)

theorem foldl_extend_ofText (lines : List String) (depth : Nat) (text : String) :
    (ofText depth text).foldl extend lines =
      lines ++ (Text.lines text).map (Emitter.indentLine depth) := by
  unfold ofText
  induction Text.lines text generalizing lines with
  | nil => exact (List.append_nil lines).symm
  | cons l others ih =>
    rw [List.map_cons, List.foldl_cons, ih, extend, List.map_cons, List.append_assoc]
    rfl

end Entry

namespace Step

/-- What a step that is not about blocks adds. -/
def entries (depth : Nat) : Step → List Entry
  | statement text | note text | item text => Entry.ofText depth text
  | field text => Entry.ofText depth (Emitter.withoutTrailing ',' text ++ ",")
  | blank => [.gap]
  | use _ | enter .. | leave => []

/-- What the step that opens a block adds. -/
def openingEntries (depth : Nat) (kind : BlockKind) (opener : String) : List Entry :=
  if kind = .elseBlock then [.tail " else \x7b"] else Entry.ofText depth (Emitter.opening opener)

/-- The paths that steps bring into scope. -/
def used (steps : List Step) : List String :=
  steps.filterMap fun s => match s with
    | .use path => some (Emitter.withoutTrailing ';' (Text.trim path))
    | _ => none

theorem used_append (steps others : List Step) : used (steps ++ others) = used steps ++ used others :=
  List.filterMap_append

/-- The block that was just closed, after a step that is not about blocks. -/
def closes (closed : Option BlockKind) : Step → Option BlockKind
  | statement _ | item _ => none
  | _ => closed

end Step

namespace Emitter

variable {e e' : Emitter} {s : Step} {kind : BlockKind} {opener : String}

/-- An emitter with more paths and more lines. -/
def after (e : Emitter) (paths : List String) (entries : List Entry) (closed : Option BlockKind) :
    Emitter where
  paths := paths.foldl (fun known path => insertSorted path known) e.paths
  lines := (entries.foldl Entry.extend e.lines.reverse).reverse
  blocks := e.blocks
  lastClosed := closed

theorem after_after (e : Emitter) (paths paths' : List String) (entries entries' : List Entry)
    (closed closed' : Option BlockKind) :
    (e.after paths entries closed).after paths' entries' closed' =
      e.after (paths ++ paths') (entries ++ entries') closed' := by
  simp only [after, List.foldl_append, List.reverse_reverse]

theorem after_nil (e : Emitter) : e.after [] [] e.lastClosed = e := by
  simp only [after, List.foldl_nil, List.reverse_reverse]

theorem write_eq (e : Emitter) (text : String) :
    e.write text = e.after [] (Entry.ofText e.blocks.length text) e.lastClosed := by
  simp only [write, after, List.foldl_nil, Entry.foldl_extend_ofText, List.reverse_append,
    List.reverse_reverse]

theorem blank_eq (e : Emitter) : e.blank = e.after [] [.gap] e.lastClosed := by
  unfold blank after
  cases e with | mk paths lines blocks lastClosed =>
  cases lines with
  | nil => rfl
  | cons last lines =>
    by_cases empty : last = ""
    · simp [Entry.extend, empty]
    · simp [Entry.extend, empty]

theorem allow_eq_ok {what : Construct} :
    e.allow what = .ok () ↔ what.allowedIn e.current = true := by
  unfold allow
  split <;> simp_all

/-- What is done where a construct is allowed. -/
theorem allow_then_eq_ok {what : Construct} {done : Emitter} :
    (do e.allow what; return done : Except EmitError Emitter) = .ok e' ↔
      what.allowedIn e.current = true ∧ e' = done := by
  constructor
  · intro ran
    obtain ⟨_, allowed, same⟩ := bind_eq_ok.mp ran
    cases same
    exact ⟨allow_eq_ok.mp allowed, rfl⟩
  · rintro ⟨allowed, rfl⟩
    exact bind_eq_ok.mpr ⟨(), allow_eq_ok.mpr allowed, rfl⟩

theorem statement_allowed_iff {outer : BlockKind} :
    Construct.statement.allowedIn outer = true ↔
      outer ∈ [.function, .ifBlock, .elseBlock, .plain] := by cases outer <;> decide

theorem item_allowed_iff {outer : BlockKind} :
    Construct.item.allowedIn outer = true ↔ outer ∈ [.module, .impl] := by cases outer <;> decide

theorem note_allowed_iff {outer : BlockKind} :
    Construct.note.allowedIn outer = true ↔ outer ∈ [.module, .impl, .struct] := by
  cases outer <;> decide

theorem field_allowed_iff {outer : BlockKind} :
    Construct.field.allowedIn outer = true ↔ outer = .struct := by cases outer <;> decide

/-- A step that is not about blocks is done where it can stand, and adds what it adds. -/
theorem step_plain (isPlain : s.IsPlain = true) :
    e.step s = .ok e' ↔ s.StandsIn e.current ∧
      e' = e.after (Step.used [s]) (s.entries e.blocks.length) (s.closes e.lastClosed) := by
  cases s with
  | enter | leave => cases isPlain
  | use path =>
    have done : e.after (Step.used [.use path]) [] e.lastClosed = e.use path := by
      simp [after, Step.used, use]
    change Except.ok (e.use path) = .ok e' ↔
      True ∧ e' = e.after (Step.used [.use path]) [] e.lastClosed
    rw [done, Except.ok.injEq, true_and]
    exact eq_comm
  | blank =>
    rw [step, Except.ok.injEq, Step.StandsIn, true_and, blank_eq]
    exact eq_comm
  | statement text =>
    rw [step, allow_then_eq_ok, statement_allowed_iff, write_eq]
    rfl
  | item text =>
    rw [step, allow_then_eq_ok, item_allowed_iff, write_eq]
    rfl
  | note text =>
    rw [step, allow_then_eq_ok, note_allowed_iff, write_eq]
    rfl
  | field text =>
    rw [step, allow_then_eq_ok, field_allowed_iff, write_eq]
    rfl

/-- The line before an `else` is the one that it goes on. -/
theorem tail_eq (e : Emitter) (text : String) :
    ([Entry.tail text].foldl Entry.extend e.lines.reverse).reverse =
      match e.lines with
      | last :: lines => (last ++ text) :: lines
      | [] => [] := by
  cases e.lines with
  | nil => rfl
  | cons last lines => simp [Entry.extend]

/-- An emitter inside a block that was just opened. -/
def inside (e : Emitter) (kind : BlockKind) (opener : String) : Emitter :=
  { e.after [] (Step.openingEntries e.blocks.length kind opener) none with
    blocks := kind :: e.blocks }

theorem enter_of_not_else (other : kind ≠ .elseBlock) :
    e.step (.enter kind opener) = (do e.allow (.block kind); return e.inside kind opener) := by
  rw [inside, Step.openingEntries, if_neg other]
  simp only [step, enter, if_neg other, write_eq, after]

theorem enter_of_follows (follows : e.lastClosed = some .ifBlock) :
    e.step (.enter .elseBlock opener) =
      (do e.allow (.block .elseBlock); return e.inside .elseBlock opener) := by
  rw [inside, Step.openingEntries, if_pos rfl]
  simp only [step, enter, follows, after, tail_eq]
  rfl

/-- A block is opened where it can be, an `else` only right after an `if`. -/
theorem step_enter :
    e.step (.enter kind opener) = .ok e' ↔
      (e.current ∈ kind.places ∧ (kind = .elseBlock → e.lastClosed = some .ifBlock)) ∧
        e' = e.inside kind opener := by
  rw [← BlockKind.holds_iff_mem_places]
  by_cases other : kind = .elseBlock
  · subst other
    by_cases follows : e.lastClosed = some .ifBlock
    · rw [enter_of_follows follows, allow_then_eq_ok]
      simp [follows, Construct.allowedIn]
    · constructor
      · intro ran
        obtain ⟨_, -, ran⟩ := bind_eq_ok.mp ran
        rw [if_pos rfl, if_pos follows] at ran
        cases ran
      · rintro ⟨⟨-, after⟩, -⟩
        exact absurd (after rfl) follows
  · rw [enter_of_not_else other, allow_then_eq_ok]
    simp [other, Construct.allowedIn]

/-- A block that is open can be closed. -/
theorem step_leave {blocks : List BlockKind} (isOpen : e.blocks = kind :: blocks) :
    e.step .leave = .ok e' ↔
      e' = { e with blocks }.after [] (Entry.ofText blocks.length "\x7d") (some kind) := by
  simp only [step, leave, isOpen, write_eq, Except.ok.injEq]
  exact eq_comm

end Emitter

end Companion

import Companion.Proofs.Emit.Text
import Mathlib.Data.List.Induction

/-! Units as forests.

A sequence of steps is taken, and leaves no block open, exactly if it writes down a forest in which
everything is in a block that it can be in.
-/

set_option autoImplicit false

namespace Companion

open Generation (block)

/-- A part of a unit: a step that is not about blocks, or a block with all that is in it. -/
inductive Part where
  | plain (s : Step) (isPlain : s.IsPlain = true)
  | block (kind : BlockKind) (opener : String) (content : List Part)

namespace Part

/-! ### Steps of a forest -/

mutual

/-- The steps that write a part down. -/
def steps : Part → List Step
  | plain s _ => [s]
  | block kind opener content => Generation.block kind opener (stepsOf content)

def stepsOf : List Part → List Step
  | [] => []
  | p :: others => steps p ++ stepsOf others

end

mutual

/-- What a part adds at a depth. -/
def entries (depth : Nat) : Part → List Entry
  | plain s _ => s.entries depth
  | block kind opener content => Step.openingEntries depth kind opener ++
      entriesOf (depth + 1) content ++ Entry.ofText depth "\x7d"

def entriesOf (depth : Nat) : List Part → List Entry
  | [] => []
  | p :: others => entries depth p ++ entriesOf depth others

end

/-! ### Places in a forest -/

/-- Whether a part may come between an `if` and its `else`. -/
def IsIdle : Part → Prop
  | plain (.use _) _ | plain .blank _ => True
  | _ => False

/-- The parts end in an `if`, but for idle ones. -/
def FollowsIf (before : List Part) : Prop :=
  ∃ front opener content idle, before = front ++ block .ifBlock opener content :: idle ∧
    ∀ p ∈ idle, p.IsIdle

/-- Every `else` among the parts comes after an `if`, with no more than idle parts between. -/
def ElsesFollow (parts : List Part) : Prop :=
  ∀ before opener content after, parts = before ++ block .elseBlock opener content :: after →
    FollowsIf before

mutual

/-- A part and all in it are in blocks that they can be in. -/
def IsPlaced (outer : BlockKind) : Part → Prop
  | plain s _ => s.StandsIn outer
  | block kind _ content => outer ∈ kind.places ∧ ArePlaced kind content ∧ ElsesFollow content

def ArePlaced (outer : BlockKind) : List Part → Prop
  | [] => True
  | p :: others => IsPlaced outer p ∧ ArePlaced outer others

end

theorem arePlaced_iff {outer : BlockKind} {parts : List Part} :
    ArePlaced outer parts ↔ ∀ p ∈ parts, p.IsPlaced outer := by
  induction parts with
  | nil => simp [ArePlaced]
  | cons p others ih => simp [ArePlaced, ih]

/-! ### Running a forest -/

/-- The block that was closed last, after a part. -/
def closes (closed : Option BlockKind) : Part → Option BlockKind
  | plain s _ => s.closes closed
  | block kind _ _ => some kind

mutual

/-- An emitter takes a part in a block, where another was closed last. -/
def Fits (outer : BlockKind) (closed : Option BlockKind) : Part → Prop
  | plain s _ => s.StandsIn outer
  | block kind _ content =>
    (outer ∈ kind.places ∧ (kind = .elseBlock → closed = some .ifBlock)) ∧
      AreFit kind none content

def AreFit (outer : BlockKind) (closed : Option BlockKind) : List Part → Prop
  | [] => True
  | p :: others => Fits outer closed p ∧ AreFit outer (p.closes closed) others

end

open Emitter

theorem used_block (kind : BlockKind) (opener : String) (steps : List Step) :
    Step.used (Generation.block kind opener steps) = Step.used steps := by
  rw [Generation.block, List.cons_append, Step.used, List.filterMap_cons]
  exact (Step.used_append steps [.leave]).trans (List.append_nil _)

theorem leave_inside (e : Emitter) (kind : BlockKind) (opener : String) (paths : List String)
    (entries : List Entry) (closed : Option BlockKind) (more : List Entry) :
    ({ (e.inside kind opener).after paths entries closed with blocks := e.blocks } : Emitter).after
        [] more (some kind) =
      e.after paths (Step.openingEntries e.blocks.length kind opener ++ entries ++ more)
        (some kind) := by
  simp only [after, inside, List.foldl_append, List.foldl_nil, List.reverse_reverse]

mutual

/-- A part is taken exactly if it fits, and adds what it adds. -/
theorem run_part : ∀ (p : Part) {e e' : Emitter}, p.steps.foldlM step e = .ok e' ↔
    p.Fits e.current e.lastClosed ∧
      e' = e.after (Step.used p.steps) (p.entries e.blocks.length) (p.closes e.lastClosed)
  | plain s isPlain, e, e' => by
    rw [steps, List.foldlM_cons]
    simp only [List.foldlM_nil, bind_pure]
    exact step_plain isPlain
  | block kind opener content, e, e' => by
    rw [steps, used_block, Generation.block, List.cons_append, List.foldlM_cons, bind_eq_ok]
    constructor
    · rintro ⟨opened, entered, ran⟩
      obtain ⟨place, rfl⟩ := step_enter.mp entered
      rw [List.foldlM_append] at ran
      obtain ⟨filled, ran, left⟩ := bind_eq_ok.mp ran
      obtain ⟨fit, rfl⟩ := (run_parts content).mp ran
      simp only [List.foldlM_cons, List.foldlM_nil, bind_pure] at left
      refine ⟨⟨place, fit⟩, ?_⟩
      rw [(step_leave rfl).mp left]
      exact leave_inside ..
    · rintro ⟨⟨place, fit⟩, rfl⟩
      refine ⟨_, step_enter.mpr ⟨place, rfl⟩, ?_⟩
      rw [List.foldlM_append, bind_eq_ok]
      refine ⟨_, (run_parts content).mpr ⟨fit, rfl⟩, ?_⟩
      simp only [List.foldlM_cons, List.foldlM_nil, bind_pure]
      refine (step_leave rfl).mpr ?_
      exact (leave_inside ..).symm

theorem run_parts : ∀ (parts : List Part) {e e' : Emitter},
    (stepsOf parts).foldlM step e = .ok e' ↔ AreFit e.current e.lastClosed parts ∧
      e' = e.after (Step.used (stepsOf parts)) (entriesOf e.blocks.length parts)
        (parts.foldl closes e.lastClosed)
  | [], e, e' => by
    change Except.ok e = .ok e' ↔ True ∧ e' = e.after [] [] e.lastClosed
    rw [after_nil, Except.ok.injEq, true_and]
    exact eq_comm
  | p :: others, e, e' => by
    rw [stepsOf, List.foldlM_append, bind_eq_ok, Step.used_append, List.foldl_cons]
    constructor
    · rintro ⟨next, first, rest⟩
      obtain ⟨fits, rfl⟩ := (run_part p).mp first
      obtain ⟨fit, rfl⟩ := (run_parts others).mp rest
      exact ⟨⟨fits, fit⟩, after_after ..⟩
    · rintro ⟨⟨fits, fit⟩, rfl⟩
      refine ⟨_, (run_part p).mpr ⟨fits, rfl⟩, ?_⟩
      exact (run_parts others).mpr ⟨fit, (after_after ..).symm⟩

end

/-! ### Sequences that write a forest down -/

/-- Steps that write a forest down, then close a block, and so on for every open block. -/
def Completes : Nat → List Step → Prop
  | 0, steps => ∃ parts, steps = stepsOf parts
  | depth + 1, steps => ∃ parts rest, steps = stepsOf parts ++ .leave :: rest ∧ Completes depth rest

theorem completes_append {depth : Nat} {rest : List Step} (p : Part) (completes : Completes depth rest) :
    Completes depth (p.steps ++ rest) := by
  cases depth with
  | zero =>
    obtain ⟨parts, rfl⟩ := completes
    exact ⟨p :: parts, rfl⟩
  | succ depth =>
    obtain ⟨parts, more, rfl, completes⟩ := completes
    exact ⟨p :: parts, more, (List.append_assoc ..).symm, completes⟩

/-- Whatever steps an emitter takes, those that are left close the blocks that are open, and write
forests down in each of them. -/
theorem completes_of_run {steps : List Step} {e e' : Emitter} (ran : steps.foldlM step e = .ok e')
    (closed : e'.blocks = []) : Completes e.blocks.length steps := by
  -- The induction is on the steps that are left, so a block that is opened is one more to close.
  induction steps generalizing e with
  | nil =>
    cases ran
    rw [closed]
    exact ⟨[], rfl⟩
  | cons s others ih =>
    rw [List.foldlM_cons] at ran
    obtain ⟨next, first, rest⟩ := bind_eq_ok.mp ran
    have later := ih rest
    cases kind : s with
    | enter inner opener =>
      subst kind
      obtain ⟨-, rfl⟩ := step_enter.mp first
      obtain ⟨content, more, rfl, completes⟩ := later
      have written : (block inner opener content).steps ++ more =
          .enter inner opener :: (stepsOf content ++ .leave :: more) := by
        simp [Part.steps, Generation.block]
      rw [← written]
      exact completes_append _ completes
    | leave =>
      subst kind
      cases isOpen : e.blocks with
      | nil =>
        rw [step, leave, isOpen] at first
        cases first
      | cons inner blocks =>
        rw [step_leave isOpen] at first
        subst first
        exact ⟨[], others, rfl, later⟩
    | use | blank | statement | field | note | item =>
      have isPlain : s.IsPlain = true := by rw [kind]; rfl
      obtain ⟨-, rfl⟩ := (step_plain isPlain).mp first
      rw [← kind]
      exact completes_append (.plain s isPlain) later

theorem exists_parts {steps : List Step} {e : Emitter} (ran : steps.foldlM step .empty = .ok e)
    (closed : e.blocks = []) : ∃ parts, stepsOf parts = steps := by
  obtain ⟨parts, same⟩ := completes_of_run ran closed
  exact ⟨parts, same.symm⟩

/-! ### What fits -/

variable {outer : BlockKind} {p : Part} {before parts : List Part}

theorem areFit_concat {closed : Option BlockKind} :
    AreFit outer closed (before ++ [p]) ↔
      AreFit outer closed before ∧ p.Fits outer (before.foldl closes closed) := by
  induction before generalizing closed with
  | nil => simp [AreFit]
  | cons first others ih => simp [AreFit, ih, and_assoc]

theorem followsIf_concat :
    FollowsIf (before ++ [p]) ↔
      (∃ opener content, p = .block .ifBlock opener content) ∨ p.IsIdle ∧ FollowsIf before := by
  constructor
  · rintro ⟨front, opener, content, idle, split, all⟩
    rcases List.eq_nil_or_concat idle with rfl | ⟨others, last, rfl⟩
    · left
      exact ⟨opener, content, List.singleton_inj.mp (List.append_inj_right' split rfl)⟩
    · right
      rw [List.concat_eq_append, ← List.cons_append, ← List.append_assoc] at split
      obtain ⟨rfl, same⟩ := List.append_inj' split rfl
      obtain rfl := List.singleton_inj.mp same
      refine ⟨all p (by simp), front, opener, content, others, rfl, fun q member => all q ?_⟩
      simp [member]
  · rintro (⟨opener, content, rfl⟩ | ⟨isIdle, front, opener, content, idle, rfl, all⟩)
    · exact ⟨before, opener, content, [], rfl, nofun⟩
    · refine ⟨front, opener, content, idle ++ [p], by simp, fun q member => ?_⟩
      rcases List.mem_append.mp member with inside | last
      · exact all q inside
      · rwa [List.mem_singleton.mp last]

theorem elsesFollow_concat :
    ElsesFollow (before ++ [p]) ↔ ElsesFollow before ∧
      ∀ opener content, p = .block .elseBlock opener content → FollowsIf before := by
  constructor
  · intro follow
    refine ⟨fun front opener content after split => ?_, fun opener content same => ?_⟩
    · exact follow front opener content (after ++ [p]) (by simp [split])
    · exact follow before opener content [] (by rw [same])
  · rintro ⟨earlier, last⟩ front opener content after split
    rcases List.eq_nil_or_concat after with rfl | ⟨others, q, rfl⟩
    · obtain ⟨rfl, same⟩ := List.append_inj' split rfl
      exact last opener content (List.singleton_inj.mp same)
    · rw [List.concat_eq_append, ← List.cons_append, ← List.append_assoc] at split
      exact earlier front opener content others (List.append_inj_left' split rfl)

/-- Where an `else` can be, what was closed last is an `if` only after one, and after idle parts. -/
theorem closes_eq_if {closed : Option BlockKind} (place : outer ∈ BlockKind.elseBlock.places)
    (placed : p.IsPlaced outer) :
    p.closes closed = some .ifBlock ↔
      (∃ opener content, p = .block .ifBlock opener content) ∨
        p.IsIdle ∧ closed = some .ifBlock := by
  cases p with
  | block kind opener content => simp [closes, IsIdle]
  | plain s isPlain =>
    cases s with
    | enter | leave => cases isPlain
    | use | blank => simp [closes, Step.closes, IsIdle]
    | statement | item => simp [closes, Step.closes, IsIdle]
    | field text =>
      -- Fields and notes leave no trace either, but no `else` can be beside them.
      obtain rfl : outer = .struct := placed
      exact absurd place (by decide)
    | note text =>
      have beside : outer ∈ [.module, .impl, .struct] := placed
      cases outer <;> first | exact absurd place (by decide) | exact absurd beside (by decide)

theorem closed_eq_if (place : outer ∈ BlockKind.elseBlock.places)
    (placed : ArePlaced outer before) :
    before.foldl closes none = some .ifBlock ↔ FollowsIf before := by
  rw [arePlaced_iff] at placed
  induction before using List.reverseRecOn with
  | nil => simp [FollowsIf]
  | append_singleton earlier p ih =>
    have first := ih fun q member => placed q (List.mem_append_left _ member)
    rw [List.foldl_append, List.foldl_cons, List.foldl_nil, followsIf_concat,
      closes_eq_if place (placed p (by simp)), first]

/-- Parts fit in a block, one after the other, exactly if they are placed well in it. -/
theorem areFit_iff (each : ∀ p ∈ parts, ∀ closed, p.Fits outer closed ↔ p.IsPlaced outer ∧
      ∀ opener content, p = .block .elseBlock opener content → closed = some .ifBlock) :
    AreFit outer none parts ↔ ArePlaced outer parts ∧ ElsesFollow parts := by
  -- From the end, since what was closed before a part is known from all parts before it.
  induction parts using List.reverseRecOn with
  | nil => simp [AreFit, ArePlaced, ElsesFollow]
  | append_singleton before p ih =>
    have earlier := ih fun q member => each q (List.mem_append_left _ member)
    have together : ArePlaced outer (before ++ [p]) ↔ ArePlaced outer before ∧ p.IsPlaced outer := by
      simp [arePlaced_iff, or_imp, forall_and]
    rw [areFit_concat, earlier, each p (by simp), elsesFollow_concat, together]
    constructor
    · rintro ⟨⟨placed, follow⟩, fits, after⟩
      refine ⟨⟨placed, fits⟩, follow, fun opener content same => ?_⟩
      subst same
      exact (closed_eq_if fits.1 placed).mp (after opener content rfl)
    · rintro ⟨⟨placed, fits⟩, follow, after⟩
      refine ⟨⟨placed, follow⟩, fits, fun opener content same => ?_⟩
      subst same
      exact (closed_eq_if fits.1 placed).mpr (after opener content rfl)

/-- A part fits where it is placed well, if it is no `else` or comes right after an `if`. -/
theorem fits_iff : ∀ (p : Part) (outer : BlockKind) (closed : Option BlockKind),
    p.Fits outer closed ↔ p.IsPlaced outer ∧
      ∀ opener content, p = .block .elseBlock opener content → closed = some .ifBlock
  | plain s isPlain, outer, closed => by simp [Fits, IsPlaced]
  | block kind opener content, outer, closed => by
    rw [Fits, IsPlaced, areFit_iff fun p member => fits_iff p kind, and_right_comm]
    refine and_congr_right fun _ => ⟨fun follows _ _ same => ?_, fun follows isElse => ?_⟩
    · exact follows (Part.block.inj same).1
    · exact follows opener content (by rw [isElse])

/-! ### The text of a forest -/

mutual

theorem isClean_entries : ∀ {depth : Nat} (p : Part), ∀ entry ∈ p.entries depth, entry.IsClean
  | depth, plain s _ => s.isClean_entries
  | depth, block kind opener content => by
    intro entry member
    rcases List.mem_append.mp member with inside | closing
    · rcases List.mem_append.mp inside with opening | within
      · exact Step.isClean_openingEntries entry opening
      · exact isClean_entriesOf content entry within
    · exact Entry.isClean_ofText closing

theorem isClean_entriesOf :
    ∀ {depth : Nat} (parts : List Part), ∀ entry ∈ entriesOf depth parts, entry.IsClean
  | _, [] => nofun
  | depth, p :: others => by
    intro entry member
    rcases List.mem_append.mp member with first | rest
    · exact isClean_entries p entry first
    · exact isClean_entriesOf others entry rest

end

/-- A line for each import, and an empty one after them if there are any. -/
def importText (paths : List String) : String :=
  String.join (paths.map fun path => "use " ++ path ++ ";\n") ++
    (if paths.isEmpty then "" else "\n")

/-- The unit of a forest: imports in order and each once, then the lines of all parts in order
without the blank ones at the end. -/
def unitText (parts : List Part) : String :=
  importText (imports (Step.used (stepsOf parts))) ++
    "\n".intercalate ((Entry.layout (entriesOf 0 parts)).rdropWhile String.isEmpty) ++ "\n"

theorem finish_after (parts : List Part) (closed : Option BlockKind) :
    (Emitter.empty.after (Step.used (stepsOf parts)) (entriesOf 0 parts) closed).finish =
      .ok (unitText parts) := by
  have clean : ∀ l ∈ Entry.layout (entriesOf 0 parts), '\n' ∉ l.toList :=
    Entry.clean_foldl (isClean_entriesOf parts) nofun
  have lines := withoutTrailing_intercalate clean
  unfold Entry.layout at lines
  simp only [finish, after, Emitter.empty, List.reverse_reverse, List.reverse_nil, imports_eq, lines,
    unitText, importText, Entry.layout]
  rfl

end Part

/-- A sequence of steps makes a unit exactly if it writes down a forest in which every part is in a
block that it can be in and every `else` follows its `if`, and then the unit is the text of the
forest. -/
theorem Emitter.unit_eq_ok_iff (steps : List Step) (text : String) :
    unit steps = .ok text ↔ ∃ parts, Part.stepsOf parts = steps ∧
      Part.ArePlaced .module parts ∧ Part.ElsesFollow parts ∧ text = Part.unitText parts := by
  have fit (parts : List Part) : Part.AreFit .module none parts ↔
      Part.ArePlaced .module parts ∧ Part.ElsesFollow parts :=
    Part.areFit_iff fun p _ => p.fits_iff .module
  rw [unit, bind_eq_ok]
  constructor
  · rintro ⟨e, ran, finished⟩
    -- A unit is only given out with all blocks closed, and then its steps write a forest down.
    have closed : e.blocks = [] := by
      unfold finish at finished
      split at finished
      · cases finished
      · next closed => simpa using closed
    obtain ⟨parts, rfl⟩ := Part.exists_parts ran closed
    obtain ⟨fits, rfl⟩ := (Part.run_parts parts).mp ran
    obtain ⟨placed, follow⟩ := (fit parts).mp fits
    refine ⟨parts, rfl, placed, follow, ?_⟩
    exact Except.ok.inj (finished.symm.trans (Part.finish_after parts _))
  · rintro ⟨parts, rfl, placed, follow, rfl⟩
    refine ⟨_, (Part.run_parts parts).mpr ⟨?_, rfl⟩, Part.finish_after parts _⟩
    exact (fit parts).mpr ⟨placed, follow⟩

end Companion

import Companion.Proofs.Code.Written

/-! What productions of the grammar read from given trees: lists, paths and bounds.

A type in front of what ends it is read whole, or it stalls: what is read of it, if anything,
leaves a plus sign that no list, group or pair of angle brackets takes.
-/

set_option autoImplicit false

namespace Companion.Code

variable {α σ : Type}

/-! ### Loops -/

/-- What the repetition of a step finds. -/
inductive Reader.Iterates (step : σ → Reader (Bool × σ)) :
    σ → List Tree → Option (σ × List Tree) → Prop
  | stop {s s' : σ} {ts left : List Tree} (done : (step s).run ts = some ((false, s'), left)) :
      Iterates step s ts (some (s', left))
  | fail {s : σ} {ts : List Tree} (failed : (step s).run ts = none) : Iterates step s ts none
  | more {s s' : σ} {ts left : List Tree} {found : Option (σ × List Tree)}
      (goesOn : (step s).run ts = some ((true, s'), left)) (shorter : left.length < ts.length)
      (others : Iterates step s' left found) : Iterates step s ts found

namespace Reader

theorem run_loop {step : σ → Reader (Bool × σ)} {s : σ} {ts : List Tree}
    {found : Option (σ × List Tree)} (iterates : Iterates step s ts found) :
    (loop step s).run ts = found := by
  have within : ∀ fuel, ts.length < fuel → (loopWithin step fuel s).run ts = found := by
    induction iterates with
    | stop done =>
      rintro (_ | fuel) enough
      · omega
      · simp [loopWithin, done]
    | fail failed =>
      rintro (_ | fuel) enough
      · omega
      · simp [loopWithin, failed]
    | more goesOn shorter others ih =>
      rintro (_ | fuel) enough
      · omega
      · simpa [loopWithin, goesOn] using ih fuel (by omega)
  exact within _ (Nat.lt_succ_self _)

/-- One item and the comma after it, unless something stops the list. -/
def listStep (stops : List Tree → Bool) (item : Reader α) (items : List α) :
    Reader (Bool × List α) := do
  if ← peek stops then return (false, items)
  let items := (← item) :: items
  if ← peek stops then return (false, items)
  operator ","
  return (true, items)

/-- Items with commas between them, up to what stops them. -/
def listed (stops : List Tree → Bool) (item : Reader α) : Reader (List α) := do
  let items ← loop (listStep stops item) []
  return items.reverse

theorem separated_eq (item : Reader α) : separated "," item = listed List.isEmpty item := rfl

end Reader

theorem Grammar.angled_eq (item : Reader α) : Grammar.angled item = (do
    Reader.operator "<"
    let items ← Reader.listed (Tree.atOperator ">") item
    Reader.operator ">"
    return items) := by
  change (do
    Reader.operator "<"
    let items ← Reader.loop (Reader.listStep (Tree.atOperator ">") item) []
    Reader.operator ">"
    return items.reverse) = _
  simp [Reader.listed]

/-! ### Places of types -/

/-- What a type starts with, where nothing else can start. -/
def BeginsType : List Tree → Prop
  | .ident name :: _ => name ∉ ["mut", "true", "false"]
  | .punct mark _ :: _ => mark ∈ [':', '&']
  | .group delimiter _ :: _ => delimiter ≠ .brace
  | _ => False

/-- What may follow a path in a type. -/
def EndsPath : List Tree → Prop
  | [] => True
  | .punct mark _ :: _ => mark ∈ [',', '>', ';', '+', '=']
  | _ => False

/-- What may follow a type. -/
def EndsType (ts : List Tree) : Prop := EndsPath ts ∧ Tree.atOperator "+" ts = false

/-- What may follow a type in a list, where an equals sign would make it the name of another. -/
def EndsItem (ts : List Tree) : Prop := EndsType ts ∧ Tree.atOperator "=" ts = false

theorem BeginsType.append {trees : List Tree} (begins : BeginsType trees) (rest : List Tree) :
    BeginsType (trees ++ rest) := by
  cases trees with
  | nil => exact begins.elim
  | cons tree trees => cases tree <;> exact begins

/-- What reading a type or a part of it finds in front of the rest. -/
inductive Gives (a : α) (rest : List Tree) : Bool → Option (α × List Tree) → Prop
  | read : Gives a rest false (some (a, rest))
  | stalled {b : α} {left : List Tree} (plus : Tree.atOperator "+" left = true) :
      Gives a rest true (some (b, left))
  | failed : Gives a rest true none

theorem Gives.map {α β : Type} {a : α} {rest : List Tree} {stalls : Bool}
    {found : Option (α × List Tree)} (f : α → β) (given : Gives a rest stalls found) :
    Gives (f a) rest stalls (found.map fun (b, left) => (f b, left)) := by
  cases given with
  | read => exact .read
  | stalled plus => exact .stalled plus
  | failed => exact .failed

theorem Gives.of_eq {α : Type} {a : α} {rest : List Tree} {stalls : Bool}
    {found : Option (α × List Tree)} (same : found = if stalls then none else some (a, rest)) :
    Gives a rest stalls found := by
  subst same
  cases stalls with
  | false => exact .read
  | true => exact .failed

/-- Items with commas between them, each of which the reader reads if it does not stall. -/
inductive ItemsRead (item : Reader α) : List Tree → List α → Bool → Prop
  | last {trees : List Tree} {a : α} {stalls : Bool} (begins : BeginsType trees)
      (reads : ∀ rest, EndsItem rest → Gives a rest stalls (item.run (trees ++ rest))) :
      ItemsRead item trees [a] stalls
  | more {trees others : List Tree} {a : α} {as : List α} {stalls stalls' : Bool}
      (begins : BeginsType trees)
      (reads : ∀ rest, EndsItem rest → Gives a rest stalls (item.run (trees ++ rest)))
      (joint : Bool) (more : ItemsRead item others as stalls') :
      ItemsRead item (trees ++ .punct ',' joint :: others) (a :: as) (stalls || stalls')

theorem ItemsRead.begins {item : Reader α} {trees : List Tree} {as : List α} {stalls : Bool}
    (read : ItemsRead item trees as stalls) : BeginsType trees := by
  cases read with
  | last begins => exact begins
  | more begins => exact begins.append _

/-- What stops a list is neither a type nor a comma nor a plus sign. -/
def StopsList (stops : List Tree → Bool) : Prop :=
  ∀ ts, BeginsType ts ∨ Tree.atOperator "," ts ∨ Tree.atOperator "+" ts → stops ts = false

theorem stopsList_isEmpty : StopsList List.isEmpty := by
  intro ts begins
  cases ts with
  | nil => simp [BeginsType, Tree.atOperator, Tree.atMarks] at begins
  | cons tree ts => rfl

theorem stopsList_angle : StopsList (Tree.atOperator ">") := by
  intro ts begins
  match ts with
  | [] => rfl
  | .punct mark joint :: ts =>
    by_contra same
    obtain rfl : mark = '>' := by simpa [Tree.atOperator, Tree.atMarks] using same
    simp [BeginsType, Tree.atOperator, Tree.atMarks] at begins
  | .ident _ :: _ | .literal _ :: _ | .group .. :: _ => rfl

theorem endsItem_nil : EndsItem [] := ⟨⟨trivial, rfl⟩, rfl⟩

theorem endsItem_comma (joint : Bool) (ts : List Tree) : EndsItem (.punct ',' joint :: ts) :=
  ⟨⟨by simp [EndsPath], by simp [Tree.atOperator, Tree.atMarks]⟩,
    by simp [Tree.atOperator, Tree.atMarks]⟩

theorem not_atMark_of_plus {ts : List Tree} {c : Char} (plus : Tree.atOperator "+" ts = true)
    (other : c ≠ '+') : Tree.atMarks [c] ts = false := by
  match ts, plus with
  | .punct mark joint :: ts, plus =>
    obtain rfl : mark = '+' := by simpa [Tree.atOperator, Tree.atMarks] using plus
    exact beq_false_of_ne other.symm

section

variable {stops : List Tree → Bool} {item : Reader α} {ts left : List Tree} {a : α} {as : List α}

theorem listStep_failed (goesOn : stops ts = false) (failed : item.run ts = none) :
    (Reader.listStep stops item as).run ts = none := by
  simp [Reader.listStep, Reader.peek, goesOn, failed]

theorem listStep_last (goesOn : stops ts = false) (read : item.run ts = some (a, left))
    (stopped : stops left = true) :
    (Reader.listStep stops item as).run ts = some ((false, a :: as), left) := by
  simp [Reader.listStep, Reader.peek, goesOn, read, stopped]

theorem listStep_stalled (goesOn : stops ts = false) (read : item.run ts = some (a, left))
    (goesOn' : stops left = false) (other : Tree.atOperator "," left = false) :
    (Reader.listStep stops item as).run ts = none := by
  simp [Reader.listStep, Reader.peek, Reader.operator, Reader.expect, goesOn, read, goesOn', other]

theorem listStep_more {joint : Bool} (goesOn : stops ts = false)
    (read : item.run ts = some (a, .punct ',' joint :: left))
    (goesOn' : stops (.punct ',' joint :: left) = false) :
    (Reader.listStep stops item as).run ts = some ((true, a :: as), left) := by
  simp [Reader.listStep, Reader.peek, Reader.operator, Reader.expect, Reader.drop,
    Tree.atOperator, Tree.atMarks, goesOn, read, goesOn']
  rfl

end

theorem iterates_listStep {stops : List Tree → Bool} {item : Reader α} {trees close : List Tree}
    {as : List α} {stalls : Bool} (neither : StopsList stops) (ends : EndsItem close)
    (closed : stops close = true) (items : ItemsRead item trees as stalls) (before : List α) :
    Reader.Iterates (Reader.listStep stops item) before (trees ++ close)
      (if stalls then none else some (as.reverse ++ before, close)) := by
  induction items generalizing before with
  -- an item that stalls leaves a plus sign, which is neither a comma nor what stops the list
  | last begins reads =>
    have goesOn := neither _ (.inl (begins.append close))
    have given := reads close ends
    generalize found : item.run _ = read at given
    cases given with
    | read => exact .stop (listStep_last goesOn found closed)
    | stalled plus => exact .fail (listStep_stalled goesOn found (neither _ (.inr (.inr plus)))
        (not_atMark_of_plus plus (by decide)))
    | failed => exact .fail (listStep_failed goesOn found)
  | @more _ others _ _ _ _ begins reads joint _ ih =>
    rw [List.append_assoc, List.cons_append]
    have goesOn := neither _ (.inl (begins.append (.punct ',' joint :: (others ++ close))))
    have given := reads _ (endsItem_comma joint (others ++ close))
    generalize found : item.run _ = read at given
    cases given with
    | read =>
      have comma := neither (.punct ',' joint :: (others ++ close)) (.inr (.inl rfl))
      refine .more (listStep_more goesOn found comma) (by simp; omega) ?_
      simpa using ih (_ :: before)
    | stalled plus => exact .fail (listStep_stalled goesOn found (neither _ (.inr (.inr plus)))
        (not_atMark_of_plus plus (by decide)))
    | failed => exact .fail (listStep_failed goesOn found)

theorem run_listed {stops : List Tree → Bool} {item : Reader α} {trees close : List Tree}
    {as : List α} {stalls : Bool} (neither : StopsList stops) (ends : EndsItem close)
    (closed : stops close = true) (items : ItemsRead item trees as stalls) :
    (Reader.listed stops item).run (trees ++ close) =
      if stalls then none else some (as, close) := by
  have looped := Reader.run_loop (iterates_listStep neither ends closed items [])
  cases stalls <;> simp [Reader.listed, looped]

/-! ### Arguments -/

namespace BeginsType

variable {ts : List Tree}

theorem not_atLifetime (begins : BeginsType ts) : Tree.atLifetime ts = false := by
  unfold Tree.atLifetime
  split
  · simp [BeginsType] at begins
  · rfl

theorem not_atQuestion (begins : BeginsType ts) : Tree.atOperator "?" ts = false := by
  match ts, begins with
  | .punct mark joint :: ts, begins =>
    by_contra same
    obtain rfl : mark = '?' := by simpa [Tree.atOperator, Tree.atMarks] using same
    simp [BeginsType] at begins
  | .ident _ :: _, _ | .group .. :: _, _ => rfl

theorem not_isEmpty (begins : BeginsType ts) : ts.isEmpty = false :=
  stopsList_isEmpty ts (.inl begins)

theorem not_atLiteral (begins : BeginsType ts) : Tree.atLiteral ts = false := by
  unfold Tree.atLiteral
  split
  · exact begins.elim
  · simp [BeginsType] at begins
    simp [begins]
  · simp [BeginsType] at begins
  · rfl

theorem not_atBrace (begins : BeginsType ts) : Tree.atGroup .brace ts = false := by
  unfold Tree.atGroup
  split
  · simpa [BeginsType] using begins
  · rfl

end BeginsType

theorem EndsPath.not_atMarks {ts : List Tree} {c : Char} (ends : EndsPath ts)
    (other : c ∉ [',', '>', ';', '+', '=']) (marks : List Char) :
    Tree.atMarks (c :: marks) ts = false := by
  match ts, ends with
  | [], _ => cases marks <;> rfl
  | .punct mark joint :: ts, ends =>
    have different : (mark == c) = false := beq_false_of_ne fun same => other (same ▸ ends)
    cases marks <;> simp [Tree.atMarks, different]

theorem endsPath_of_plus {ts : List Tree} (plus : Tree.atOperator "+" ts = true) : EndsPath ts := by
  match ts, plus with
  | .punct mark joint :: ts, plus =>
    obtain rfl : mark = '+' := by simpa [Tree.atOperator, Tree.atMarks] using plus
    simp [EndsPath]

namespace Grammar

variable {g : Grammar}

/-- An argument that starts as a type does is the type, if it ends where a path may and no mark
follows that would turn the type into the name of an associated one. -/
theorem run_argument {ts left : List Tree} {e : TypeExpr} (begins : BeginsType ts)
    (ends : EndsPath left) (equals : Tree.atOperator "=" left = false)
    (read : (g.type true).run ts = some (e, left)) :
    (g.argument).run ts = some (.type e, left) := by
  have colon : Tree.atOperator ":" left = false := ends.not_atMarks (by decide) []
  have alone : (g.associated).run left = some (false, left) := by
    simp [associated, Reader.operator?, Reader.peek, equals, colon]
  simp only [argument, Reader.peek]
  simp [begins.not_atLifetime, begins.not_atLiteral, begins.not_atBrace, read]
  split <;> simp [alone]

theorem gives_argument {ts rest : List Tree} {e : TypeExpr} {stalls : Bool}
    (begins : BeginsType ts) (ends : EndsItem rest)
    (type : Gives e rest stalls ((g.type true).run ts)) :
    Gives (.type e) rest stalls ((g.argument).run ts) := by
  generalize found : (g.type true).run ts = read at type
  cases type with
  | read =>
    rw [run_argument begins ends.1.1 ends.2 found]
    exact .read
  | stalled plus =>
    rw [run_argument begins (endsPath_of_plus plus) (not_atMark_of_plus plus (by decide)) found]
    exact .stalled plus
  | failed =>
    have nothing : (g.argument).run ts = none := by
      simp [argument, Reader.peek, begins.not_atLifetime, begins.not_atLiteral, begins.not_atBrace,
        found]
    rw [nothing]
    exact .failed

theorem itemsRead_argument {trees : List Tree} {types : List TypeExpr} {stalls : Bool}
    (read : ItemsRead (g.type true) trees types stalls) :
    ItemsRead g.argument trees (types.map .type) stalls := by
  induction read with
  | last begins reads =>
    exact .last begins fun rest ends => gives_argument (begins.append rest) ends (reads rest ends)
  | more begins reads joint _ ih =>
    exact .more begins
      (fun rest ends => gives_argument (begins.append rest) ends (reads rest ends)) joint ih

theorem endsItem_angle (joint : Bool) (ts : List Tree) : EndsItem (.punct '>' joint :: ts) :=
  ⟨⟨by simp [EndsPath], by simp [Tree.atOperator, Tree.atMarks]⟩,
    by simp [Tree.atOperator, Tree.atMarks]⟩

theorem run_angled {item : Reader α} {trees : List Tree} {as : List α} {stalls : Bool}
    (opening closing : Bool) (items : ItemsRead item trees as stalls) (rest : List Tree) :
    (angled item).run (.punct '<' opening :: (trees ++ .punct '>' closing :: rest)) =
      if stalls then none else some (as, rest) := by
  have listed := run_listed stopsList_angle (endsItem_angle closing rest) rfl items
  rw [angled_eq]
  cases stalls <;> simp [listed]

/-! ### Paths -/

/-- A word that is reserved and does not stand in paths starts none. -/
theorem not_atWord_of_stands {name word : String} (stands : StandsInPath name)
    (reserved : word ∈ Tree.reserved ∧ word ∉ "Self" :: pathKeywords) (ts : List Tree) :
    Tree.atWord word (.ident name :: ts) = false := by
  refine beq_false_of_ne ?_
  rintro rfl
  rcases stands with keyword | self | free
  · exact reserved.2 (List.mem_cons_of_mem _ keyword)
  · exact reserved.2 (self ▸ List.mem_cons_self)
  · exact free reserved.1

/-- Two colons before a path. -/
def colons (absolute : Bool) : List Tree :=
  if absolute then [.punct ':' true, .punct ':' false] else []

theorem beginsType_path (absolute : Bool) {name : String} (stands : StandsInPath name)
    (more : List Tree) : BeginsType (colons absolute ++ .ident name :: more) := by
  cases absolute with
  | true => exact List.mem_cons_self
  | false =>
    have other {word : String} (reserved : word ∈ Tree.reserved ∧ word ∉ "Self" :: pathKeywords) :
        name ≠ word := ne_of_beq_false (not_atWord_of_stands stands reserved more)
    simp [BeginsType, colons, @other "mut" (by decide), @other "true" (by decide),
      @other "false" (by decide)]

/-- A segment of a path and its trees. -/
inductive SegmentRead (g : Grammar) : List Tree → Segment → Bool → Prop
  | plain {name : String} (stands : StandsInPath name) :
      SegmentRead g [.ident name] (.mk name .none) false
  | generic {name : String} (stands : StandsInPath name) (suits : name ∉ pathKeywords)
      {trees : List Tree} {types : List TypeExpr} {stalls : Bool} (opening closing : Bool)
      (arguments : ItemsRead (g.type true) trees types stalls) :
      SegmentRead g (.ident name :: .punct '<' opening :: (trees ++ [.punct '>' closing]))
        (.mk name (.angled (types.map .type))) stalls

/-- Segments with two colons between them, of which the last may have arguments. -/
inductive SegmentsRead (g : Grammar) : List Tree → List Segment → Bool → Prop
  | last {trees : List Tree} {segment : Segment} {stalls : Bool}
      (read : SegmentRead g trees segment stalls) : SegmentsRead g trees [segment] stalls
  | more {name : String} (stands : StandsInPath name) {trees : List Tree} {segments : List Segment}
      {stalls : Bool} (read : SegmentsRead g trees segments stalls) :
      SegmentsRead g (.ident name :: .punct ':' true :: .punct ':' false :: trees)
        (.mk name .none :: segments) stalls

variable {trees rest : List Tree} {segments : List Segment} {stalls : Bool}

/-- Whether arguments in angle brackets come next. -/
def atAngled (ts : List Tree) : Bool :=
  (Tree.atOperator "<" ts && !Tree.atOperator "<=" ts && !Tree.atOperator "<<=" ts) ||
    (Tree.atOperator "::" ts && Tree.atOperator "<" (Tree.skip (Tree.skip ts)))

theorem run_segment_keyword {name : String} (arguments : Reader (List Argument)) (ts : List Tree)
    (keyword : name ∈ pathKeywords) :
    (segment false arguments).run (.ident name :: ts) = some (.mk name .none, ts) := by
  simp only [pathKeywords, List.mem_cons, List.not_mem_nil, or_false] at keyword
  rcases keyword with rfl | rfl | rfl | rfl <;> simp [segment, Tree.atWord]

theorem run_segment {name : String} (arguments : Reader (List Argument)) (ts : List Tree)
    (stands : StandsInPath name) (other : name ∉ pathKeywords) :
    (segment false arguments).run (.ident name :: ts) =
      if atAngled ts then
        (do
          let _ ← Reader.operator? "::"
          return .mk name (.angled (← arguments)) : Reader Segment).run ts
      else some (.mk name .none, ts) := by
  have test : (fun ts => (!false && Tree.atOperator "<" ts && !Tree.atOperator "<=" ts &&
      !Tree.atOperator "<<=" ts) ||
      (Tree.atOperator "::" ts && Tree.atOperator "<" (Tree.skip (Tree.skip ts)))) = atAngled := rfl
  have word {text : String} (different : name ≠ text) :
      Tree.atWord text (.ident name :: ts) = false := beq_false_of_ne different
  simp only [pathKeywords, List.mem_cons, List.not_mem_nil, or_false, not_or] at other
  rw [segment, test]
  rcases stands with keyword | rfl | free
  · simp [pathKeywords, other] at keyword
  · cases found : atAngled ts <;> simp [Tree.atWord, found]
  · have self : name ≠ "Self" := by
      rintro rfl
      exact free (by decide)
    cases found : atAngled ts <;> simp [word, other, self, Reader.run_ident _ free, found]

theorem atAngled_of_endsPath {ts : List Tree} (ends : EndsPath ts) : atAngled ts = false := by
  match ts, ends with
  | [], _ => rfl
  | .punct mark joint :: ts, ends =>
    simp only [EndsPath, List.mem_cons, List.not_mem_nil, or_false] at ends
    rcases ends with rfl | rfl | rfl | rfl | rfl <;> rfl

theorem atAngled_of_name (joint : Bool) (name : String) (ts : List Tree) :
    atAngled (.punct ':' true :: .punct ':' joint :: .ident name :: ts) = false := rfl

theorem atAngled_angle (joint : Bool) {ts : List Tree} (begins : BeginsType ts) :
    atAngled (.punct '<' joint :: ts) = true := by
  match ts, begins with
  | .punct mark joint' :: ts, begins =>
    simp only [BeginsType, List.mem_cons, List.not_mem_nil, or_false] at begins
    rcases begins with rfl | rfl <;>
      simp [atAngled, Tree.atOperator, Tree.atMarks, Tree.skip]
  | .ident name :: ts, _ | .group d body :: ts, _ =>
    simp [atAngled, Tree.atOperator, Tree.atMarks, Tree.skip]

theorem SegmentRead.run {s : Segment} (read : SegmentRead g trees s stalls)
    (ends : atAngled rest = false) :
    (segment false (angled g.argument)).run (trees ++ rest) =
      if stalls then none else some (s, rest) := by
  cases read with
  | @plain name stands =>
    by_cases keyword : name ∈ pathKeywords
    · exact run_segment_keyword _ rest keyword
    · simpa [ends] using run_segment (angled g.argument) rest stands keyword
  | @generic name stands suits trees types _ opening closing arguments =>
    have given := run_angled opening closing (itemsRead_argument arguments) rest
    have opens := atAngled_angle opening (arguments.begins.append (.punct '>' closing :: rest))
    have plain : Tree.atOperator "::"
        (.punct '<' opening :: (trees ++ .punct '>' closing :: rest)) = false := rfl
    cases stalls <;>
      simp [run_segment _ _ stands suits, opens, Reader.run_operator?_absent plain, given]

/-- The step of a path after its first segment. -/
def moreStep (segment : Reader Segment) (segments : List Segment) :
    Reader (Bool × List Segment) := do
  if ← Reader.peek fun ts => Tree.atOperator "::" ts &&
      !Tree.atGroup .parenthesis (Tree.skip (Tree.skip ts)) then
    Reader.operator "::"
    return (true, (← segment) :: segments)
  else return (false, segments)

theorem SegmentsRead.ne_nil (read : SegmentsRead g trees segments stalls) : segments ≠ [] := by
  cases read <;> simp

theorem moreSegments_eq (segment : Reader Segment) (first : List Segment) :
    moreSegments segment first = (do
      let segments ← Reader.loop (moreStep segment) first.reverse
      return segments.reverse) := rfl

theorem run_moreStep (segment : Reader Segment) (before : List Segment) (joint : Bool)
    (name : String) (ts : List Tree) :
    (moreStep segment before).run (.punct ':' true :: .punct ':' joint :: .ident name :: ts) =
      (segment.run (.ident name :: ts)).map fun (s, left) => ((true, s :: before), left) := by
  simp [moreStep, Tree.atOperator, Tree.atMarks, Tree.skip, Tree.atGroup]

theorem run_moreStep_last (segment : Reader Segment) (before : List Segment)
    (ends : EndsPath rest) : (moreStep segment before).run rest = some ((false, before), rest) := by
  have absent : Tree.atOperator "::" rest = false := ends.not_atMarks (by decide) [':']
  simp [moreStep, absent]

theorem SegmentRead.exists_ident {s : Segment}
    (read : SegmentRead g trees s stalls) :
    ∃ name more, StandsInPath name ∧ trees = .ident name :: more := by
  cases read <;> exact ⟨_, _, ‹_›, rfl⟩

theorem SegmentsRead.exists_ident (read : SegmentsRead g trees segments stalls) :
    ∃ name more, StandsInPath name ∧ trees = .ident name :: more := by
  cases read with
  | last read => exact read.exists_ident
  | more stands => exact ⟨_, _, stands, rfl⟩

/-- A name in front of two colons is a segment by itself. -/
theorem SegmentsRead.run_name (read : SegmentsRead g trees segments stalls) {name : String}
    (stands : StandsInPath name) (rest : List Tree) : (segment false (angled g.argument)).run
      (.ident name :: .punct ':' true :: .punct ':' false :: (trees ++ rest)) =
      some (.mk name .none, .punct ':' true :: .punct ':' false :: (trees ++ rest)) := by
  obtain ⟨other, more, -, rfl⟩ := read.exists_ident
  exact (SegmentRead.plain stands).run (atAngled_of_name false other (more ++ rest))

theorem SegmentsRead.iterates (read : SegmentsRead g trees segments stalls) (ends : EndsPath rest)
    (joint : Bool) (before : List Segment) :
    Reader.Iterates (moreStep (segment false (angled g.argument))) before
      (.punct ':' true :: .punct ':' joint :: (trees ++ rest))
      (if stalls then none else some (segments.reverse ++ before, rest)) := by
  induction read generalizing joint before with
  | @last trees s stalls read =>
    have run := read.run (atAngled_of_endsPath ends)
    obtain ⟨name, more, -, rfl⟩ := read.exists_ident
    have step := run_moreStep (segment false (angled g.argument)) before joint name (more ++ rest)
    rw [← List.cons_append, run] at step
    cases stalls with
    | false =>
      exact .more step (by simp; omega) (.stop (run_moreStep_last _ _ ends))
    | true => exact .fail step
  | @more name stands trees segments stalls read ih =>
    have step := run_moreStep (segment false (angled g.argument)) before joint name
      (.punct ':' true :: .punct ':' false :: (trees ++ rest))
    rw [read.run_name stands rest] at step
    refine .more step (by simp) ?_
    simpa using ih false (.mk name .none :: before)

/-- The segments of a path, from the first on. -/
def allSegments (g : Grammar) : Reader (List Segment) := do
  let segment := segment false (angled g.argument)
  moreSegments segment [← segment]

theorem typePath_eq (g : Grammar) : g.typePath false = (do
    let absolute ← Reader.operator? "::"
    return .mk absolute (← g.allSegments)) := by
  simp [typePath, allSegments]

theorem run_allSegments (read : SegmentsRead g trees segments stalls) (ends : EndsPath rest) :
    (g.allSegments).run (trees ++ rest) = if stalls then none else some (segments, rest) := by
  cases read with
  | @last trees s _ read =>
    have first := read.run (atAngled_of_endsPath ends)
    have others := Reader.run_loop
      (.stop (run_moreStep_last (segment false (angled g.argument)) [s] ends))
    cases stalls <;> simp [allSegments, first, moreSegments_eq, others]
  | @more name stands trees segments _ read =>
    have first := read.run_name stands rest
    have others := Reader.run_loop (read.iterates ends false [.mk name .none])
    cases stalls <;> simp [allSegments, first, moreSegments_eq, others]

theorem run_typePath (absolute : Bool) (read : SegmentsRead g trees segments stalls)
    (ends : EndsPath rest) :
    (g.typePath false).run (colons absolute ++ (trees ++ rest)) =
      if stalls then none else some (.mk absolute segments, rest) := by
  have leads : (Reader.operator? "::").run (colons absolute ++ (trees ++ rest)) =
      some (absolute, trees ++ rest) := by
    cases absolute with
    | false =>
      obtain ⟨name, more, -, rfl⟩ := read.exists_ident
      rfl
    | true => rfl
  have all := run_allSegments read ends
  cases stalls <;> simp [typePath_eq, leads, all]

end Grammar

end Companion.Code

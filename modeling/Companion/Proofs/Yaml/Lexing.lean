import Companion.Proofs.Json.Compact
import Companion.Proofs.Yaml.Quoting

/-! The tokens of texts in flow style.

Where no place must be a key, a possible key is given up without an error. So what a token adds only
depends on the characters that are left and on the brackets that are open.
-/

set_option autoImplicit false

namespace Companion.Yaml

open Code.Lexer (digits)

/-! ### Places between tokens -/

/-- A line without tokens. -/
def IsIdle (line : List Char) : Prop :=
  line = [] ∨ ∃ comment, line = '#' :: comment ∧ ∀ x ∈ comment, isBreak x = false

/-- Lines, and blanks before what follows them. -/
def spaces (lines : List (List Char)) (blanks : Nat) : List Char :=
  lines.flatMap (· ++ ['\n']) ++ List.replicate blanks ' '

/-- A character that starts a token. -/
structure IsSolid (x : Char) : Prop where
  noBreak : isBreak x = false
  noBlank : isBlank x = false
  noComment : x ≠ '#'
  noMark : x ≠ '\ufeff'

namespace Cursor

variable {c : Cursor} {x : Char} {cs : List Char}

theorem head?_eq (here : c.rest = x :: cs) : c.head? = some x := by
  rw [head?, here, List.head?_cons]

theorem rest_skip (here : c.rest = x :: cs) : c.skip.rest = cs := by
  unfold skip
  rw [here]

theorem before_skip (here : c.rest = x :: cs) : c.skip.Before cs := by
  unfold skip
  rw [here]
  exact ⟨rfl, Nat.succ_ne_zero _⟩

theorem rest_skipBreak (here : c.rest = '\n' :: cs) : c.skipBreak.rest = cs := by
  unfold skipBreak takeBreak
  rw [here]
  rfl

theorem skipWhile_eq {p : Char → Bool} (here : c.rest = x :: cs) (stops : p x = false) :
    c.skipWhile p = c := by
  obtain ⟨rest, index, line, column⟩ := c
  obtain rfl : rest = x :: cs := here
  simp [skipWhile, takeWhile, stops]

theorem rest_skipWhile {p : Char → Bool} {front : List Char} (here : c.rest = front ++ cs)
    (all : ∀ x ∈ front, p x = true) (stops : ∀ x ∈ cs.head?, p x = false) :
    (c.skipWhile p).rest = cs := by
  have rest : (c.skipWhile p).rest = c.rest.dropWhile p := rfl
  rw [rest, here, List.dropWhile_append_of_pos all]
  cases cs with
  | nil => rfl
  | cons x cs => rw [List.dropWhile_cons_of_neg (by simp [stops x rfl])]

theorem not_documentMark {mark : Char} (here : c.rest = x :: cs) (other : x ≠ mark) :
    c.atDocumentMark mark = false := by
  unfold atDocumentMark
  rw [here]
  simp [other]

end Cursor

namespace Lexer

variable {l l' : Lexer} {x : Char} {cs : List Char} {ts : List Token} {depth : Nat}

/-- What a lexer has read and what is left, outside of all blocks and inside of so many brackets. No
place must be a key. -/
structure Stands (l : Lexer) (cs : List Char) (ts : List Token) (depth : Nat) : Prop where
  rest : l.cursor.rest = cs
  tokens : l.tokens.toList = ts
  levels : l.keys.length = depth + 1
  free : ∀ key ∈ l.keys, ∀ place ∈ key, place.required = false
  indent : l.indent = -1
  indents : l.indents = []

/-- No key has started, and none can start here. -/
def Bare (l : Lexer) : Prop := l.keyAllowed = false ∧ ∃ outer, l.keys = none :: outer

theorem Stands.inFlow (here : l.Stands cs ts (depth + 1)) : l.inFlow = true := by
  simp [Lexer.inFlow, here.levels]

theorem Stands.closeBlocks (here : l.Stands cs ts depth) (column : Int) :
    l.closeBlocks column = l := by
  unfold Lexer.closeBlocks
  rw [here.indents]
  simp [unroll]

/-! ### Blanks and comments -/

/-- Blanks that may stand before a token. -/
def isPassed (l : Lexer) (x : Char) : Bool := x == ' ' || ((l.inFlow || !l.keyAllowed) && x == '\t')

theorem isPassed_eq_false (l : Lexer) (other : isBlank x = false) : l.isPassed x = false := by
  simp_all [isBlank, isPassed]

/-- Blanks are passed, and then a comment; behind a line break that starts again. -/
theorem skipSpace_succ (fuel : Nat) (first : l.cursor.head? ≠ some '\ufeff') :
    skipSpace (fuel + 1) l =
      let c := l.cursor.skipWhile l.isPassed
      let c := if c.isAt '#' then c.skipToLineEnd else c
      if c.atBreak then
        skipSpace fuel { l.moveTo c.skipBreak with keyAllowed := l.keyAllowed || !l.inFlow }
      else l.moveTo c := by
  have noMark : l.cursor.isAt '\ufeff' = false := beq_false_of_ne first
  have passed : l.isPassed = fun x => x == ' ' || ((l.inFlow || !l.keyAllowed) && x == '\t') := rfl
  simp [skipSpace, noMark, passed]

/-- An idle line is passed. -/
theorem skipSpace_line {line : List Char} (idle : IsIdle line)
    (here : l.cursor.rest = line ++ '\n' :: cs) : ∃ c, c.rest = cs ∧ ∀ fuel,
      skipSpace (fuel + 1) l =
        skipSpace fuel { l with cursor := c, keyAllowed := l.keyAllowed || !l.inFlow } := by
  obtain rfl | ⟨comment, rfl, plain⟩ := idle
  · have stays := Cursor.skipWhile_eq here (l.isPassed_eq_false (x := '\n') rfl)
    have head := Cursor.head?_eq here
    refine ⟨_, Cursor.rest_skipBreak here, fun fuel => ?_⟩
    rw [skipSpace_succ fuel (by simp [head]), stays]
    simp [Cursor.isAt, head, Cursor.atBreak, isBreak, moveTo]
  · have stays := Cursor.skipWhile_eq here (l.isPassed_eq_false (x := '#') rfl)
    have head := Cursor.head?_eq here
    have atEnd : l.cursor.skipToLineEnd.rest = '\n' :: cs := by
      have whole : l.cursor.rest = ('#' :: comment) ++ '\n' :: cs := here
      refine Cursor.rest_skipWhile whole ?_ ?_
      · simpa [isBreak] using plain
      · simp [isBreak]
    refine ⟨_, Cursor.rest_skipBreak atEnd, fun fuel => ?_⟩
    rw [skipSpace_succ fuel (by simp [head]), stays]
    simp [Cursor.isAt, head, Cursor.atBreak, Cursor.head?_eq atEnd, isBreak, moveTo]

/-- Blanks are passed, up to a token or the end. -/
theorem skipSpace_blanks {blanks : Nat} (solid : ∀ x ∈ cs.head?, IsSolid x)
    (here : l.cursor.rest = List.replicate blanks ' ' ++ cs) : ∃ c, c.rest = cs ∧
      ∀ fuel, skipSpace (fuel + 1) l = { l with cursor := c } := by
  have stop : ∀ x ∈ cs.head?, l.isPassed x = false := fun x member =>
    l.isPassed_eq_false (solid x member).noBlank
  have after : (l.cursor.skipWhile l.isPassed).rest = cs := by
    refine Cursor.rest_skipWhile here (fun x member => ?_) stop
    rw [List.eq_of_mem_replicate member]
    rfl
  have first : l.cursor.head? ≠ some '\ufeff' := by
    intro mark
    rw [Cursor.head?, here] at mark
    cases blanks with
    | zero => exact (solid _ mark).noMark rfl
    | succ blanks => cases mark
  have ends : (l.cursor.skipWhile l.isPassed).isAt '#' = false ∧
      (l.cursor.skipWhile l.isPassed).atBreak = false := by
    unfold Cursor.isAt Cursor.atBreak Cursor.head?
    rw [after]
    cases cs with
    | nil => exact ⟨rfl, rfl⟩
    | cons x cs =>
      exact ⟨beq_false_of_ne fun same => (solid x rfl).noComment (Option.some.inj same),
        (solid x rfl).noBreak⟩
  refine ⟨_, after, fun fuel => ?_⟩
  rw [skipSpace_succ fuel first]
  simp [ends, moveTo]

/-- Idle lines and blanks are passed, up to a token or the end. -/
theorem skipSpace_spaces {lines : List (List Char)} {blanks fuel : Nat}
    (idle : ∀ line ∈ lines, IsIdle line) (solid : ∀ x ∈ cs.head?, IsSolid x)
    (enough : lines.length < fuel) (here : l.cursor.rest = spaces lines blanks ++ cs) :
    ∃ c allowed, c.rest = cs ∧ (l.inFlow = true → allowed = l.keyAllowed) ∧
      skipSpace fuel l = { l with cursor := c, keyAllowed := allowed } := by
  obtain ⟨fuel, rfl⟩ := Nat.exists_eq_succ_of_ne_zero (Nat.ne_zero_of_lt enough)
  induction lines generalizing l fuel with
  | nil =>
    obtain ⟨c, rest, skipped⟩ := skipSpace_blanks solid here
    exact ⟨c, l.keyAllowed, rest, fun _ => rfl, skipped fuel⟩
  | cons line lines ih =>
    obtain ⟨first, others⟩ := List.forall_mem_cons.mp idle
    have line : l.cursor.rest = line ++ '\n' :: (spaces lines blanks ++ cs) := by
      simp [here, spaces]
    obtain ⟨c, rest, skipped⟩ := skipSpace_line first line
    obtain ⟨fuel, rfl⟩ := Nat.exists_eq_succ_of_ne_zero
      (Nat.ne_zero_of_lt (Nat.lt_of_succ_lt_succ enough))
    obtain ⟨c', allowed, rest', same, skipped'⟩ :=
      ih (l := { l with cursor := c, keyAllowed := l.keyAllowed || !l.inFlow }) others rest fuel
        (Nat.lt_of_succ_lt_succ enough)
    refine ⟨c', allowed, rest', fun inFlow => ?_, (skipped _).trans skipped'⟩
    rw [same inFlow, inFlow]
    simp

/-- Keys that have become too long are given up. -/
theorem Stands.dropStale (here : l.Stands cs ts depth) :
    ∃ l', l.dropStale = some l' ∧ l'.Stands cs ts depth ∧ (l.Bare → l'.Bare) := by
  have free : (l.keys.any fun key =>
      key.any (isStale l.cursor) && key.any (·.required)) = false := by
    rw [List.any_eq_false]
    intro key member both
    obtain ⟨-, required⟩ := (Bool.and_eq_true _ _).mp both
    obtain ⟨place, known, needed⟩ := (Option.any_eq_true _ _).mp required
    rw [here.free key member place known] at needed
    cases needed
  have dropped : l.dropStale =
      some { l with
        keys := l.keys.map fun key => if key.any (isStale l.cursor) then none else key } := by
    unfold Lexer.dropStale
    simp only [free]
    rfl
  refine ⟨_, dropped, ⟨here.rest, here.tokens, ?_, ?_, here.indent, here.indents⟩, ?_⟩
  · rw [List.length_map, here.levels]
  · intro key member place known
    obtain ⟨old, inside, rfl⟩ := List.mem_map.mp member
    split at known
    · cases known
    · exact here.free old inside place known
  · rintro ⟨closed, outer, same⟩
    exact ⟨closed, _, by rw [same]; rfl⟩

/-- No key has to stand here, so one that has started is given up. -/
theorem Stands.dropKey (here : l.Stands cs ts depth) :
    ∃ l', l.dropKey = some l' ∧ l'.Stands cs ts depth ∧ ∃ outer, l'.keys = none :: outer := by
  unfold Lexer.dropKey
  cases known : l.keys with
  | nil =>
    have levels := here.levels
    rw [known] at levels
    cases levels
  | cons key outer =>
    cases key with
    | none => exact ⟨l, rfl, here, outer, known⟩
    | some place =>
      have free := here.free
      have levels := here.levels
      rw [known] at free levels
      obtain ⟨first, others⟩ := List.forall_mem_cons.mp free
      simp only [first place rfl, Bool.false_eq_true, if_false]
      refine ⟨_, rfl, ⟨here.rest, here.tokens, levels, ?_, here.indent, here.indents⟩, outer, rfl⟩
      exact List.forall_mem_cons.mpr ⟨nofun, others⟩

/-- A key that may start here need not. -/
theorem Stands.noteKey (here : l.Stands cs ts depth) :
    ∃ l', l.noteKey = some l' ∧ l'.Stands cs ts depth ∧ (l.Bare → l'.Bare) := by
  unfold Lexer.noteKey
  cases allowed : l.keyAllowed with
  | false => exact ⟨l, rfl, here, id⟩
  | true =>
    obtain ⟨next, dropped, stands, outer, keys⟩ := here.dropKey
    have outside : (next.indent == (next.cursor.column : Int)) = false := by
      rw [stands.indent]
      exact beq_false_of_ne (by omega)
    simp only [dropped, if_true]
    refine ⟨_, rfl, ⟨stands.rest, stands.tokens, ?_, ?_, stands.indent, stands.indents⟩, ?_⟩
    · simp [stands.levels]
    · refine List.forall_mem_cons.mpr ⟨?_, fun key member => ?_⟩
      · rintro place ⟨⟩
        rw [outside, Bool.and_false]
      · exact stands.free key (List.mem_of_mem_tail member)
    · intro bare
      cases allowed.symm.trans bare.1

/-! ### From token to token -/

theorem length_le_spaces (lines : List (List Char)) (blanks : Nat) :
    lines.length ≤ (spaces lines blanks).length := by
  have each : lines.length ≤ (lines.flatMap (· ++ ['\n'])).length := by
    induction lines with
    | nil => exact Nat.le_refl 0
    | cons line lines ih =>
      simp only [List.flatMap_cons, List.length_append, List.length_cons, List.length_nil] at ih ⊢
      omega
  rw [spaces, List.length_append]
  omega

/-- Passing blanks and giving up keys changes nothing but the place. -/
theorem Stands.passes {lines : List (List Char)} {blanks : Nat}
    (here : l.Stands (spaces lines blanks ++ cs) ts depth)
    (idle : ∀ line ∈ lines, IsIdle line) (solid : ∀ x ∈ cs.head?, IsSolid x) :
    ∃ l' : Lexer, (skipSpace (l.cursor.rest.length + 1) l).dropStale = some l' ∧
      l'.Stands cs ts depth ∧ (0 < depth → l.Bare → l'.Bare) := by
  have enough : lines.length < l.cursor.rest.length + 1 := by
    have size := length_le_spaces lines blanks
    rw [here.rest, List.length_append]
    omega
  obtain ⟨c, allowed, rest, same, skipped⟩ := skipSpace_spaces idle solid enough here.rest
  have next : ({ l with cursor := c, keyAllowed := allowed } : Lexer).Stands cs ts depth :=
    ⟨rest, here.tokens, here.levels, here.free, here.indent, here.indents⟩
  obtain ⟨l', dropped, stands, bare⟩ := next.dropStale
  refine ⟨l', skipped ▸ dropped, stands, fun inside known => bare ⟨?_, known.2⟩⟩
  obtain ⟨depth, rfl⟩ := Nat.exists_eq_succ_of_ne_zero (Nat.ne_of_gt inside)
  exact (same here.inFlow).trans known.1

/-- What stands before a token is passed, and the token is taken. -/
theorem Stands.run_next {lines : List (List Char)} {blanks : Nat}
    (here : l.Stands (spaces lines blanks ++ x :: cs) ts depth)
    (idle : ∀ line ∈ lines, IsIdle line) (solid : IsSolid x) :
    ∃ l' : Lexer, l'.Stands (x :: cs) ts depth ∧ (0 < depth → l.Bare → l'.Bare) ∧
      ∀ fuel, run (fuel + 1) l = (l'.tokenAt x).bind (run fuel) := by
  obtain ⟨l', passed, stands, bare⟩ := here.passes idle (by rintro y ⟨⟩; exact solid)
  refine ⟨l', stands, bare, fun fuel => ?_⟩
  simp [run, passed, stands.closeBlocks, Cursor.head?_eq stands.rest]

/-- What stands before the end is passed. -/
theorem Stands.run_end {lines : List (List Char)} {blanks : Nat}
    (here : l.Stands (spaces lines blanks) ts 0) (idle : ∀ line ∈ lines, IsIdle line) (fuel : Nat) :
    (run (fuel + 1) l).map Array.toList = some (ts ++ [.streamEnd]) := by
  rw [← List.append_nil (spaces lines blanks)] at here
  obtain ⟨l', passed, stands, -⟩ := here.passes idle nofun
  obtain ⟨last, dropped, ends, -⟩ := stands.dropKey
  have none : l'.cursor.head? = none := by
    rw [Cursor.head?, stands.rest]
    rfl
  simp [run, passed, stands.closeBlocks, none, streamEnd, closeAll, dropped, push, ends.tokens]

/-- Some steps lead from one lexer to another. Each of them takes a character. -/
def Leads (l l' : Lexer) : Prop :=
  ∃ count, count + l'.cursor.rest.length ≤ l.cursor.rest.length ∧
    ∀ fuel, run (fuel + count) l = run fuel l'

theorem Leads.refl (l : Lexer) : l.Leads l := ⟨0, by omega, fun _ => rfl⟩

theorem Leads.trans {l l' l'' : Lexer} (first : l.Leads l') (next : l'.Leads l'') : l.Leads l'' := by
  obtain ⟨count, size, same⟩ := first
  obtain ⟨count', size', same'⟩ := next
  refine ⟨count' + count, by omega, fun fuel => ?_⟩
  rw [← Nat.add_assoc, same, same']

/-- A token is one step. -/
theorem Stands.leads_to {lines : List (List Char)} {blanks : Nat} {cs' : List Char}
    {ts' : List Token} {depth' : Nat} (also : Lexer → Prop)
    (here : l.Stands (spaces lines blanks ++ x :: cs) ts depth)
    (idle : ∀ line ∈ lines, IsIdle line) (solid : IsSolid x) (less : cs'.length ≤ cs.length)
    (taken : ∀ l' : Lexer, l'.Stands (x :: cs) ts depth → (0 < depth → l.Bare → l'.Bare) →
      ∃ next, l'.tokenAt x = some next ∧ next.Stands cs' ts' depth' ∧ also next) :
    ∃ next, l.Leads next ∧ next.Stands cs' ts' depth' ∧ also next := by
  obtain ⟨l', stands, bare, ran⟩ := here.run_next idle solid
  obtain ⟨next, token, ends, known⟩ := taken l' stands bare
  refine ⟨next, ⟨1, ?_, fun fuel => ?_⟩, ends, known⟩
  · rw [here.rest, ends.rest, List.length_append, List.length_cons]
    omega
  · rw [ran, token, Option.bind_some]

theorem Stands.leads {lines : List (List Char)} {blanks : Nat} {cs' : List Char}
    {ts' : List Token} {depth' : Nat}
    (here : l.Stands (spaces lines blanks ++ x :: cs) ts depth)
    (idle : ∀ line ∈ lines, IsIdle line) (solid : IsSolid x) (less : cs'.length ≤ cs.length)
    (taken : ∀ l' : Lexer, l'.Stands (x :: cs) ts depth →
      ∃ next, l'.tokenAt x = some next ∧ next.Stands cs' ts' depth') :
    ∃ next, l.Leads next ∧ next.Stands cs' ts' depth' := by
  obtain ⟨next, leads, ends, -⟩ := here.leads_to (fun _ => True) idle solid less
    fun l' stands _ => by
      obtain ⟨next, token, ends⟩ := taken l' stands
      exact ⟨next, token, ends, trivial⟩
  exact ⟨next, leads, ends⟩

/-! ### Marks -/

theorem Stands.take (here : l.Stands (x :: cs) ts depth) (t : Token) :
    (l.take 1 t).Stands cs (ts ++ [t]) depth := by
  refine ⟨Cursor.rest_skip here.rest, ?_, here.levels, here.free, here.indent, here.indents⟩
  rw [Lexer.take, push, Array.toList_push, moveTo, here.tokens]

/-- An opening bracket. -/
def IsOpening (x : Char) (t : Token) : Prop :=
  x = '[' ∧ t = .flowSequenceStart ∨ x = '\x7b' ∧ t = .flowMappingStart

/-- A closing bracket. -/
def IsClosing (x : Char) (t : Token) : Prop :=
  x = ']' ∧ t = .flowSequenceEnd ∨ x = '\x7d' ∧ t = .flowMappingEnd

theorem IsOpening.tokenAt {t : Token} (opening : IsOpening x t) (here : l.cursor.rest = x :: cs) :
    l.tokenAt x = l.flowStart t := by
  rcases opening with ⟨rfl, rfl⟩ | ⟨rfl, rfl⟩ <;>
    simp [Lexer.tokenAt, Cursor.not_documentMark here]

theorem Stands.flowStart (here : l.Stands (x :: cs) ts depth) (t : Token) :
    ∃ next, l.flowStart t = some next ∧ next.Stands cs (ts ++ [t]) (depth + 1) := by
  obtain ⟨noted, known, stands, -⟩ := here.noteKey
  have inner : ({ noted with keys := none :: noted.keys, keyAllowed := true } : Lexer).Stands
      (x :: cs) ts (depth + 1) := by
    refine ⟨stands.rest, stands.tokens, ?_, ?_, stands.indent, stands.indents⟩
    · rw [List.length_cons, stands.levels]
    · exact List.forall_mem_cons.mpr ⟨nofun, stands.free⟩
  refine ⟨_, ?_, inner.take t⟩
  rw [Lexer.flowStart, known]
  rfl

theorem IsClosing.tokenAt {t : Token} (closing : IsClosing x t) (here : l.cursor.rest = x :: cs) :
    l.tokenAt x = l.flowEnd t := by
  rcases closing with ⟨rfl, rfl⟩ | ⟨rfl, rfl⟩ <;>
    simp [Lexer.tokenAt, Cursor.not_documentMark here]

theorem Stands.flowEnd (here : l.Stands (x :: cs) ts (depth + 1)) (t : Token) :
    ∃ next, l.flowEnd t = some next ∧ next.Stands cs (ts ++ [t]) depth := by
  obtain ⟨dropped, known, stands, -⟩ := here.dropKey
  have outer : ({ dropped with keys := dropped.keys.tail, keyAllowed := false } : Lexer).Stands
      (x :: cs) ts depth := by
    refine ⟨stands.rest, stands.tokens, ?_, ?_, stands.indent, stands.indents⟩
    · rw [List.length_tail, stands.levels]
      rfl
    · exact fun key member => stands.free key (List.mem_of_mem_tail member)
  refine ⟨_, ?_, outer.take t⟩
  rw [Lexer.flowEnd, known]
  simp [stands.inFlow]

theorem Stands.flowEntry (here : l.Stands (',' :: cs) ts depth) :
    ∃ next, l.tokenAt ',' = some next ∧ next.Stands cs (ts ++ [.flowEntry]) depth := by
  obtain ⟨dropped, known, stands, -⟩ := here.dropKey
  have after : ({ dropped with keyAllowed := true } : Lexer).Stands (',' :: cs) ts depth :=
    ⟨stands.rest, stands.tokens, stands.levels, stands.free, stands.indent, stands.indents⟩
  refine ⟨_, ?_, after.take .flowEntry⟩
  simp [Lexer.tokenAt, Cursor.not_documentMark here.rest, Lexer.flowEntry, known]

/-- The mark of a key in flow style, behind which no other key can start. -/
theorem Stands.key (here : l.Stands ('?' :: cs) ts (depth + 1)) :
    ∃ next, l.tokenAt '?' = some next ∧ next.Stands cs (ts ++ [.key]) (depth + 1) ∧ next.Bare := by
  obtain ⟨dropped, known, stands, keys⟩ := here.dropKey
  have after : ({ dropped with keyAllowed := !dropped.inFlow } : Lexer).Stands
      ('?' :: cs) ts (depth + 1) :=
    ⟨stands.rest, stands.tokens, stands.levels, stands.free, stands.indent, stands.indents⟩
  refine ⟨_, ?_, after.take .key, ?_, keys⟩
  · simp [Lexer.tokenAt, Cursor.not_documentMark here.rest, Lexer.key, here.inFlow, openBlockHere,
      openBlock, known, guard]
  · simp [Lexer.take, push, moveTo, stands.inFlow]

/-- The colon behind a key with a mark. -/
theorem Stands.value (here : l.Stands (':' :: cs) ts (depth + 1)) (bare : l.Bare) :
    ∃ next, l.tokenAt ':' = some next ∧ next.Stands cs (ts ++ [.value]) (depth + 1) := by
  obtain ⟨-, outer, keys⟩ := bare
  have after : ({ l with keyAllowed := !l.inFlow } : Lexer).Stands (':' :: cs) ts (depth + 1) :=
    ⟨here.rest, here.tokens, here.levels, here.free, here.indent, here.indents⟩
  refine ⟨_, ?_, after.take .value⟩
  simp [Lexer.tokenAt, Cursor.not_documentMark here.rest, Lexer.value, keys, here.inFlow,
    openBlockHere, openBlock, guard]

/-! ### Scalars -/

theorem Stands.node {read : Lexer → Option (Token × Cursor)} {t : Token}
    (here : l.Stands (x :: cs) ts depth) {cs' : List Char}
    (known : ∀ l' : Lexer, l'.Stands (x :: cs) ts depth →
      ∃ c, c.rest = cs' ∧ read l' = some (t, c)) :
    ∃ next, l.node read = some next ∧ next.Stands cs' (ts ++ [t]) depth ∧ (l.Bare → next.Bare) := by
  obtain ⟨noted, told, stands, bare⟩ := here.noteKey
  obtain ⟨c, rest, found⟩ := known noted stands
  refine ⟨{ (noted.moveTo c).push t with keyAllowed := false }, ?_, ⟨rest, ?_, stands.levels,
    stands.free, stands.indent, stands.indents⟩, fun before => ⟨rfl, (bare before).2⟩⟩
  · simp [Lexer.node, told, found]
  · simp [push, moveTo, stands.tokens]

/-- A text in double quotes is one token. -/
theorem Stands.quoted {text : String}
    (here : l.Stands ('"' :: (text.toList.flatMap quoteChar ++ '"' :: cs)) ts depth) :
    ∃ next, l.tokenAt '"' = some next ∧
      next.Stands cs (ts ++ [.scalar .doubleQuoted text]) depth ∧ (l.Bare → next.Bare) := by
  have token : l.tokenAt '"' = l.quoted false := by
    simp [Lexer.tokenAt, Cursor.not_documentMark here.rest]
  rw [token]
  refine here.node fun l' stands => ?_
  have inside := Cursor.before_skip stands.rest
  obtain ⟨c, behind, read⟩ := Quoted.read_quoted inside
  have enough : text.toList.length < l'.cursor.skip.rest.length + 1 := by
    have size := Quoted.length_le_quoted text.toList
    rw [inside.rest, List.length_append]
    omega
  exact ⟨c, behind.rest, by simp [read _ [] enough]⟩

/-- Digits, behind a minus sign or without one. -/
def IsSigned (word : List Char) : Prop :=
  ∃ d ds, d :: ds ⊆ digits ∧ (word = d :: ds ∨ word = '-' :: d :: ds)

theorem isSigned_toString (n : Int) : IsSigned (toString n).toList := by
  obtain ⟨d, ds, known, -⟩ := Json.begins_toString n.natAbs
  have decimal : d :: ds ⊆ digits := by
    rw [← known, Json.toList_toString]
    exact Code.Lexer.toDigits_subset _
  refine ⟨d, ds, decimal, ?_⟩
  rw [Json.toString_eq_signed, Decimal.Layout.signed]
  split
  · right
    rw [String.toList_append, known]
    rfl
  · exact .inl known

/-- Characters of an integer neither end a plain scalar nor are refused there. -/
theorem plain_of_mem : ∀ x ∈ '-' :: digits,
    (isBlank x = false ∧ isBreak x = false) ∧ x ≠ ':' ∧ Plain.isFlowMark x = false :=
  Chars.forall_mem_of_all (by decide)

theorem IsSigned.subset {word : List Char} (signed : IsSigned word) : word ⊆ '-' :: digits := by
  obtain ⟨d, ds, decimal, rfl | rfl⟩ := signed
  · exact List.subset_cons_of_subset _ decimal
  · exact List.cons_subset_cons _ decimal

theorem readWord_plain {word : List Char} {c : Cursor} (plain : word ⊆ '-' :: digits)
    (here : c.rest = word ++ ',' :: cs) :
    ∃ c' : Cursor, c'.rest = ',' :: cs ∧ ∀ fuel text, word.length < fuel →
      Plain.readWord true fuel text c = some (text ++ word, c') := by
  induction word generalizing c with
  | nil =>
    refine ⟨c, here, fun fuel text enough => ?_⟩
    obtain ⟨fuel, rfl⟩ := Nat.exists_eq_succ_of_ne_zero (Nat.ne_of_gt enough)
    simp [Plain.readWord, Cursor.head?_eq here, isBlank, isBreak, Plain.isFlowMark]
  | cons x word ih =>
    obtain ⟨first, others⟩ := List.cons_subset.mp plain
    obtain ⟨solid, noColon, noMark⟩ := plain_of_mem x first
    obtain ⟨c', behind, read⟩ := ih others (Cursor.rest_skip here)
    refine ⟨c', behind, fun fuel text enough => ?_⟩
    obtain ⟨fuel, rfl⟩ := Nat.exists_eq_succ_of_ne_zero (Nat.ne_zero_of_lt enough)
    simp [Plain.readWord, Cursor.head?_eq here, solid, noColon, noMark,
      read fuel _ (Nat.lt_of_succ_lt_succ enough)]

theorem not_isMark_of_mem : ∀ d ∈ digits, isMark d = false ∧ d ≠ '.' :=
  Chars.forall_mem_of_all (by decide)

/-- A sign is followed by a digit, so that it does not begin a document. -/
theorem not_documentMark_sign {d : Char} {c : Cursor} (digit : d ∈ digits)
    (here : c.rest = '-' :: d :: cs) : c.atDocumentMark '-' = false := by
  have noSign : d ≠ '-' := fun same => by
    have known := not_isMark_of_mem d digit
    rw [same] at known
    cases known.1
  unfold Cursor.atDocumentMark
  rw [here]
  simp [noSign]

theorem IsSigned.not_boundary {word : List Char} {c : Cursor} (signed : IsSigned word)
    (here : c.rest = word ++ cs) : c.atDocumentBoundary = false := by
  obtain ⟨d, ds, decimal, rfl | rfl⟩ := signed
  · obtain ⟨plain, noDot⟩ := not_isMark_of_mem d (List.cons_subset.mp decimal).1
    have noSign : d ≠ '-' := by
      rintro rfl
      cases plain
    simp [Cursor.atDocumentBoundary, Cursor.not_documentMark here noSign,
      Cursor.not_documentMark here noDot]
  · simp [Cursor.atDocumentBoundary, Cursor.not_documentMark here,
      not_documentMark_sign (List.cons_subset.mp decimal).1 here]

theorem tokenAt_sign {d : Char} (digit : d ∈ digits) (here : l.cursor.rest = '-' :: d :: cs) :
    l.tokenAt '-' = l.plain := by
  obtain ⟨⟨noBlank, noBreak⟩, -⟩ := plain_of_mem d (List.mem_cons_of_mem _ digit)
  have next : l.cursor.ahead? 1 = some d := by
    rw [Cursor.ahead?, here]
    rfl
  have separated : l.cursor.isSeparated 1 = false := by
    unfold Cursor.isSeparated
    rw [next]
    simp [noBlank, noBreak]
  simp [tokenAt, not_documentMark_sign digit here, Cursor.not_documentMark here, separated,
    startsPlain, next, noBlank]

theorem tokenAt_digit (digit : x ∈ digits) (here : l.cursor.rest = x :: cs) :
    l.tokenAt x = l.plain := by
  obtain ⟨plain, noDot⟩ := not_isMark_of_mem x digit
  obtain ⟨⟨noBlank, noBreak⟩, -⟩ := plain_of_mem x (List.mem_cons_of_mem _ digit)
  have other (y : Char) (mark : isMark y = true) : x ≠ y := by
    rintro rfl
    rw [mark] at plain
    cases plain
  simp [tokenAt, Cursor.not_documentMark here, noDot, other '%' rfl, other '-' rfl, other '[' rfl,
    other '\x7b' rfl, other ']' rfl, other '\x7d' rfl, other ',' rfl, other '?' rfl, other ':' rfl,
    other '*' rfl, other '&' rfl, other '!' rfl, other '|' rfl, other '>' rfl, other '\'' rfl,
    other '"' rfl, startsPlain, plain, noBlank, noBreak]

theorem IsSigned.tokenAt {word : List Char} (signed : IsSigned (x :: word))
    (here : l.cursor.rest = x :: (word ++ cs)) : l.tokenAt x = l.plain := by
  obtain ⟨d, ds, decimal, same | same⟩ := signed
  · cases same
    exact tokenAt_digit (List.cons_subset.mp decimal).1 here
  · cases same
    exact tokenAt_sign (List.cons_subset.mp decimal).1 here

/-- An integer is one token, up to the comma behind it. -/
theorem Stands.plain {word : List Char} (signed : IsSigned (x :: word))
    (here : l.Stands (x :: (word ++ ',' :: cs)) ts (depth + 1)) :
    ∃ next, l.tokenAt x = some next ∧
      next.Stands (',' :: cs) (ts ++ [.scalar .plain (String.ofList (x :: word))]) (depth + 1) := by
  obtain ⟨noted, told, stands, -⟩ := here.noteKey
  obtain ⟨c, behind, read⟩ := readWord_plain signed.subset stands.rest
  have enough : (x :: word).length < noted.cursor.rest.length + 1 := by
    rw [stands.rest, List.length_cons, List.length_cons, List.length_append]
    omega
  have boundary := signed.not_boundary stands.rest
  have noComment : noted.cursor.isAt '#' = false := by
    have known : ∀ y ∈ '-' :: digits, (some y == some '#') = false :=
      Chars.forall_mem_of_all (by decide)
    rw [Cursor.isAt, Cursor.head?_eq stands.rest]
    exact known x (signed.subset (List.mem_cons_self ..))
  have ends : c.atBlank = false ∧ c.atBreak = false := by
    unfold Cursor.atBlank Cursor.atBreak
    rw [Cursor.head?_eq behind]
    exact ⟨rfl, rfl⟩
  refine ⟨{ (noted.moveTo c).push (.scalar .plain (String.ofList (x :: word))) with
    keyAllowed := false }, ?_, ⟨behind, ?_, stands.levels, stands.free, stands.indent,
    stands.indents⟩⟩
  · rw [signed.tokenAt here.rest]
    simp [Lexer.plain, told, stands.inFlow, Plain.read, boundary, noComment, read _ [] enough, ends,
      Gap.empty, Gap.fold]
  · simp [push, moveTo, stands.tokens]

end Lexer

end Companion.Yaml

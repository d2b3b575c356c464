import Companion.Proofs.Code.Identifiers
import Mathlib.Data.List.Find
import Mathlib.Tactic.Convert

/-! Fragments of code in their places.

A fragment is checked alone and then spliced into a text, where it stands at the end of a group or
in front of a semicolon. The tests by which the grammar looks ahead find the same in both, because
none of them asks for a semicolon unless it takes the end of the trees for one too.
-/

set_option autoImplicit false

namespace Companion.Code

/-! ### The tokens of trees -/

/-- How many tokens the trees were made of. -/
def weight (ts : List Tree) : Nat := (Tree.spellings ts).length

section

variable {ts us : List Tree}

@[simp]
theorem weight_nil : weight [] = 0 := rfl

@[simp]
theorem weight_cons (tree : Tree) (ts : List Tree) :
    weight (tree :: ts) = tree.spelling.length + weight ts := by
  simp [weight, Tree.spellings]

theorem weight_group (delimiter : Delimiter) (body ts : List Tree) :
    weight (.group delimiter body :: ts) = weight body + 2 + weight ts := by
  simp [weight, Tree.spellings, Tree.spelling]
  omega

theorem weight_append (ts us : List Tree) : weight (ts ++ us) = weight ts + weight us := by
  rw [weight, Tree.spellings_append, List.length_append, weight, weight]

theorem Tree.spelling_pos (tree : Tree) : 0 < tree.spelling.length := by
  cases tree <;> simp [Tree.spelling]

theorem length_le_weight (ts : List Tree) : ts.length ≤ weight ts := by
  induction ts with
  | nil => exact Nat.le_refl 0
  | cons tree ts ih =>
    have positive := tree.spelling_pos
    rw [List.length_cons, weight_cons]
    omega

theorem weight_le (left : us <:+ ts) : weight us ≤ weight ts := by
  obtain ⟨read, rfl⟩ := left
  rw [weight_append]
  omega

theorem weight_lt (left : us <:+ ts) (shorter : us.length < ts.length) : weight us < weight ts := by
  obtain ⟨read, rfl⟩ := left
  have long := length_le_weight read
  rw [List.length_append] at shorter
  rw [weight_append]
  omega

end

/-! ### Fragments in their places -/

/-- The trees of a fragment alone, and in its place: nothing comes after it there, or a semicolon
does if `stopped`, to which a mark at the end of the fragment is joined. -/
inductive Placed : Bool → List Tree → List Tree → Prop
  | alone (ts : List Tree) : Placed false ts ts
  | stop (joint : Bool) : Placed true [] [.punct ';' joint]
  | last (mark : Char) (joint joint' joint'' : Bool) :
      Placed true [.punct mark joint] [.punct mark joint', .punct ';' joint'']
  | cons (tree : Tree) {ts ts' : List Tree} (rest : Placed true ts ts') :
      Placed true (tree :: ts) (tree :: ts')

namespace Placed

variable {stopped : Bool} {ts ts' : List Tree}

theorem eq (placed : Placed false ts ts') : ts' = ts := by
  cases placed
  rfl

theorem length_eq (placed : Placed stopped ts ts') : ts'.length = ts.length + stopped.toNat := by
  induction placed with
  | alone | stop | last => rfl
  | cons tree rest ih => simp [ih]

theorem drop (placed : Placed stopped ts ts') {count : Nat} (inside : count ≤ ts.length) :
    Placed stopped (ts.drop count) (ts'.drop count) := by
  induction placed generalizing count with
  | alone ts => exact .alone _
  | stop joint =>
    obtain rfl := Nat.le_zero.mp inside
    exact .stop joint
  | last mark joint joint' joint'' =>
    match count, inside with
    | 0, _ => exact .last mark joint joint' joint''
    | 1, _ => exact .stop joint''
  | cons tree rest ih =>
    cases count with
    | zero => exact .cons tree rest
    | succ count => exact ih (Nat.le_of_succ_le_succ inside)

/-- The trees in front are the same, apart from what the last is joined to. -/
theorem take (placed : Placed stopped ts ts') {count : Nat} (inside : count ≤ ts.length) :
    ts'.take count = ts.take count ∨ ∃ before mark joint joint',
      ts.take count = before ++ [.punct mark joint] ∧
        ts'.take count = before ++ [.punct mark joint'] := by
  induction placed generalizing count with
  | alone ts => exact .inl rfl
  | stop joint =>
    obtain rfl := Nat.le_zero.mp inside
    exact .inl rfl
  | last mark joint joint' joint'' =>
    match count, inside with
    | 0, _ => exact .inl rfl
    | 1, _ => exact .inr ⟨[], mark, joint, joint', rfl, rfl⟩
  | cons tree rest ih =>
    cases count with
    | zero => exact .inl rfl
    | succ count =>
      rcases ih (Nat.le_of_succ_le_succ inside) with
        same | ⟨before, mark, joint, joint', same, same'⟩
      · exact .inl (congrArg (tree :: ·) same)
      · exact .inr ⟨tree :: before, mark, joint, joint', congrArg (tree :: ·) same,
          congrArg (tree :: ·) same'⟩

theorem endsInBrace (placed : Placed stopped ts ts') {count : Nat} (inside : count ≤ ts.length) :
    ((ts'.take count).getLast?.any fun tree => Tree.atGroup .brace [tree]) =
      (ts.take count).getLast?.any fun tree => Tree.atGroup .brace [tree] := by
  rcases placed.take inside with same | ⟨before, mark, joint, joint', same, same'⟩
  · rw [same]
  · simp [same, same', Tree.atGroup]

end Placed

/-! ### Looking ahead -/

/-- A fragment alone and in its place. -/
structure Place (stopped : Bool) where
  alone : List Tree
  placed : List Tree
  isPlaced : Placed stopped alone placed

/-- A test that finds the same in a fragment alone and in its place. -/
class Steady (stopped : Bool) (test : List Tree → Bool) : Prop where
  same {ts ts' : List Tree} (placed : Placed stopped ts ts') : test ts' = test ts

/-- An operator that can stand in a fragment in front of its end. -/
class Sign (stopped : Bool) (text : String) : Prop where
  written : text.toList ≠ []
  unstopped : stopped = true → ';' ∉ text.toList

namespace Sign

variable {stopped : Bool}

theorem of_listed {texts : List String} {text : String} (listed : text ∈ texts)
    (signs : ∀ text ∈ texts, text.toList ≠ [] ∧ ';' ∉ text.toList) : Sign stopped text :=
  ⟨(signs text listed).1, fun _ => (signs text listed).2⟩

theorem alone {text : String} (sign : Sign stopped text) : Sign false text := ⟨sign.written, nofun⟩

instance semicolon : Sign false ";" := ⟨by decide, nofun⟩

instance : Sign stopped "::" := ⟨by decide, fun _ => by decide⟩
instance : Sign stopped "=" := ⟨by decide, fun _ => by decide⟩
instance : Sign stopped "#" := ⟨by decide, fun _ => by decide⟩
instance : Sign stopped "!" := ⟨by decide, fun _ => by decide⟩
instance : Sign stopped "+" := ⟨by decide, fun _ => by decide⟩
instance : Sign stopped "<" := ⟨by decide, fun _ => by decide⟩
instance : Sign stopped "<=" := ⟨by decide, fun _ => by decide⟩
instance : Sign stopped "<<=" := ⟨by decide, fun _ => by decide⟩
instance : Sign stopped ">" := ⟨by decide, fun _ => by decide⟩
instance : Sign stopped "," := ⟨by decide, fun _ => by decide⟩
instance : Sign stopped ":" := ⟨by decide, fun _ => by decide⟩
instance : Sign stopped "->" := ⟨by decide, fun _ => by decide⟩
instance : Sign stopped "?" := ⟨by decide, fun _ => by decide⟩
instance : Sign stopped "!=" := ⟨by decide, fun _ => by decide⟩
instance : Sign stopped "..." := ⟨by decide, fun _ => by decide⟩
instance : Sign stopped "*" := ⟨by decide, fun _ => by decide⟩
instance : Sign stopped "&" := ⟨by decide, fun _ => by decide⟩
instance : Sign stopped "..=" := ⟨by decide, fun _ => by decide⟩
instance : Sign stopped ".." := ⟨by decide, fun _ => by decide⟩
instance : Sign stopped "|" := ⟨by decide, fun _ => by decide⟩
instance : Sign stopped "||" := ⟨by decide, fun _ => by decide⟩
instance : Sign stopped "|=" := ⟨by decide, fun _ => by decide⟩
instance : Sign stopped "-" := ⟨by decide, fun _ => by decide⟩
instance : Sign stopped "@" := ⟨by decide, fun _ => by decide⟩
instance : Sign stopped "." := ⟨by decide, fun _ => by decide⟩
instance : Sign stopped "=>" := ⟨by decide, fun _ => by decide⟩
instance : Sign stopped "-=" := ⟨by decide, fun _ => by decide⟩
instance : Sign stopped "*=" := ⟨by decide, fun _ => by decide⟩
instance : Sign stopped "&=" := ⟨by decide, fun _ => by decide⟩

end Sign

namespace Tree

theorem length_of_atMarks {marks : List Char} {ts : List Tree} (found : atMarks marks ts = true) :
    marks.length ≤ ts.length := by
  fun_induction atMarks marks ts with
  | case1 => exact Nat.zero_le _
  | case2 => simp
  | case3 c d marks mark joint rest ih =>
    rw [Bool.and_eq_true] at found
    exact Nat.succ_le_succ (ih found.2)
  | case4 => cases found

theorem length_of_atOperator {text : String} {ts : List Tree}
    (found : atOperator text ts = true) : text.length ≤ ts.length := by
  rw [← String.length_toList]
  exact length_of_atMarks found

theorem atAnyWord_iff {ts : List Tree} :
    atAnyWord ts = true ↔ ∃ name rest, ts = .ident name :: rest := by
  cases ts with
  | nil => simp [atAnyWord]
  | cons tree rest => cases tree <;> simp [atAnyWord]

theorem atLifetime_cons_iff {tree : Tree} {ts : List Tree} :
    atLifetime (tree :: ts) = true ↔ tree = .punct '\'' true ∧ atAnyWord ts = true := by
  rw [atAnyWord_iff]
  unfold atLifetime
  split
  next same =>
    cases same
    simp
  next other =>
    refine iff_of_false nofun ?_
    rintro ⟨rfl, name, rest, rfl⟩
    exact other name rest rfl

theorem atLiteral_punct_iff {mark : Char} {joint : Bool} {ts : List Tree} :
    atLiteral (.punct mark joint :: ts) = true ↔ mark = '-' ∧ ∃ text rest,
      ts = .literal text :: rest ∧ (text.toList.head?.any fun c => '0' ≤ c && c ≤ '9') = true := by
  unfold atLiteral
  split
  next same => cases same
  next same => cases same
  next same =>
    cases same
    simp
  next other =>
    refine iff_of_false nofun ?_
    rintro ⟨rfl, text, rest, rfl, -⟩
    exact other joint text rest rfl

theorem skip_eq_drop (ts : List Tree) : skip ts = ts.drop (if atLifetime ts then 2 else 1) := by
  unfold skip
  split
  next => rfl
  next tree rest other =>
    have free : ¬ atLifetime (tree :: rest) = true := by
      rw [atLifetime_cons_iff, atAnyWord_iff]
      rintro ⟨rfl, name, rest', rfl⟩
      exact other name rest' rfl rfl
    rw [if_neg free]
    rfl
  next => rfl

theorem length_of_atLifetime {ts : List Tree} (found : atLifetime ts = true) : 2 ≤ ts.length := by
  unfold atLifetime at found
  split at found
  next => simp
  next => cases found

end Tree

namespace Steady

variable {stopped : Bool} {test test' : List Tree → Bool}

instance alone (test : List Tree → Bool) : Steady false test := ⟨fun placed => by rw [placed.eq]⟩

/-- A test of the first tree that no mark passes. -/
theorem of_head (first : ∀ tree ts ts', test (tree :: ts) = test (tree :: ts'))
    (empty : test [] = false) (mark : ∀ c joint ts, test (.punct c joint :: ts) = false) :
    Steady stopped test where
  same placed := by
    cases placed with
    | alone => rfl
    | stop joint => rw [empty, mark]
    | last => rw [mark, mark]
    | cons tree rest => exact first tree _ _

theorem atMarks {marks : List Char} (unstopped : ';' ∉ marks) {ts ts' : List Tree}
    (placed : Placed true ts ts') : Tree.atMarks marks ts' = Tree.atMarks marks ts := by
  induction marks generalizing ts ts' with
  | nil => rfl
  | cons c marks ih =>
    rw [List.mem_cons, not_or] at unstopped
    cases placed with
    | stop joint => cases marks <;> simp [Tree.atMarks, unstopped.1]
    | last mark joint joint' joint'' =>
      cases marks with
      | nil => rfl
      | cons d marks =>
        have later := ih unstopped.2 (.stop joint'')
        simp only [Tree.atMarks, later]
        cases marks <;> simp
    | cons tree rest =>
      cases marks with
      | nil => cases tree <;> rfl
      | cons d marks =>
        cases tree with
        | punct mark joint => simp only [Tree.atMarks, ih unstopped.2 rest]
        | _ => rfl

instance atOperator (text : String) [sign : Sign stopped text] :
    Steady stopped (Tree.atOperator text) where
  same placed := by
    cases stopped with
    | false => rw [placed.eq]
    | true => exact atMarks (sign.unstopped rfl) placed

instance atWord (word : String) : Steady stopped (Tree.atWord word) :=
  of_head (fun tree _ _ => by cases tree <;> rfl) rfl fun _ _ _ => rfl

instance atAnyWord : Steady stopped Tree.atAnyWord :=
  of_head (fun tree _ _ => by cases tree <;> rfl) rfl fun _ _ _ => rfl

instance atIdent : Steady stopped Tree.atIdent :=
  of_head (fun tree _ _ => by cases tree <;> rfl) rfl fun _ _ _ => rfl

instance atGroup (delimiter : Delimiter) : Steady stopped (Tree.atGroup delimiter) :=
  of_head (fun tree _ _ => by cases tree <;> rfl) rfl fun _ _ _ => rfl

instance atLifetime : Steady stopped Tree.atLifetime where
  same placed := by
    cases placed with
    | alone => rfl
    | stop joint => rfl
    | last mark joint joint' joint'' =>
      rw [Bool.eq_iff_iff, Tree.atLifetime_cons_iff, Tree.atLifetime_cons_iff]
      simp [Tree.atAnyWord]
    | cons tree rest =>
      rw [Bool.eq_iff_iff, Tree.atLifetime_cons_iff, Tree.atLifetime_cons_iff,
        atAnyWord.same rest]

instance atLiteral : Steady stopped Tree.atLiteral where
  same placed := by
    cases placed with
    | alone => rfl
    | stop joint => rfl
    | last mark joint joint' joint'' =>
      rw [Bool.eq_iff_iff, Tree.atLiteral_punct_iff, Tree.atLiteral_punct_iff]
      simp
    | cons tree rest =>
      cases tree with
      | punct mark joint =>
        rw [Bool.eq_iff_iff, Tree.atLiteral_punct_iff, Tree.atLiteral_punct_iff]
        cases rest <;> simp
      | _ => rfl

end Steady

/-- Looking past the end of a fragment shows nothing, semicolon or not. -/
theorem Placed.skip {stopped : Bool} {ts ts' : List Tree} (placed : Placed stopped ts ts') :
    Tree.skip ts' = Tree.skip ts ∨ Placed stopped (Tree.skip ts) (Tree.skip ts') := by
  cases ts with
  | nil =>
    cases placed with
    | alone => exact .inl rfl
    | stop joint => exact .inl rfl
  | cons tree rest =>
    right
    rw [Tree.skip_eq_drop, Tree.skip_eq_drop, Steady.atLifetime.same placed]
    apply placed.drop
    split
    next lifetime => exact Tree.length_of_atLifetime lifetime
    next => simp

namespace Steady

variable {stopped : Bool} {test test' : List Tree → Bool}

theorem same_skip [steady : Steady stopped test] {ts ts' : List Tree}
    (placed : Placed stopped ts ts') : test (Tree.skip ts') = test (Tree.skip ts) := by
  rcases placed.skip with same | placed
  · rw [same]
  · exact steady.same placed

instance const (found : Bool) : Steady stopped fun _ => found := ⟨fun _ => rfl⟩

instance not [steady : Steady stopped test] : Steady stopped fun ts => !test ts :=
  ⟨fun placed => by rw [steady.same placed]⟩

instance and [steady : Steady stopped test] [steady' : Steady stopped test'] :
    Steady stopped fun ts => test ts && test' ts :=
  ⟨fun placed => by rw [steady.same placed, steady'.same placed]⟩

instance or [steady : Steady stopped test] [steady' : Steady stopped test'] :
    Steady stopped fun ts => test ts || test' ts :=
  ⟨fun placed => by rw [steady.same placed, steady'.same placed]⟩

instance skip [Steady stopped test] : Steady stopped fun ts => test (Tree.skip ts) :=
  ⟨same_skip⟩

instance skip_skip [steady : Steady stopped test] :
    Steady stopped fun ts => test (Tree.skip (Tree.skip ts)) where
  same placed := by
    rcases placed.skip with same | placed
    · rw [same]
    · exact same_skip placed

instance atPath : Steady stopped Tree.atPath := by
  unfold Tree.atPath
  infer_instance

end Steady

/-- A test that no fewer trees pass. -/
class Deep (count : Nat) (test : List Tree → Bool) : Prop where
  inside {ts : List Tree} (found : test ts = true) : 0 < count ∧ count ≤ ts.length

namespace Deep

variable {test test' : List Tree → Bool} {count : Nat}

instance atWord (word : String) : Deep 1 (Tree.atWord word) where
  inside {ts} found := by
    cases ts with
    | nil => cases found
    | cons => simp

instance atOperator (text : String) [sign : Sign false text] :
    Deep text.length (Tree.atOperator text) where
  inside found := by
    refine ⟨?_, Tree.length_of_atOperator found⟩
    rw [← String.length_toList]
    exact List.length_pos_iff.mpr sign.written

instance atOperator_one (text : String) [Sign false text] : Deep 1 (Tree.atOperator text) where
  inside found := by
    obtain ⟨positive, long⟩ := (atOperator text).inside found
    omega

instance or [deep : Deep count test] [deep' : Deep count test'] :
    Deep count fun ts => test ts || test' ts where
  inside found := ((Bool.or_eq_true _ _).mp found).elim deep.inside deep'.inside

instance and [deep : Deep count test'] : Deep count fun ts => test ts && test' ts where
  inside found := deep.inside ((Bool.and_eq_true _ _).mp found).2

instance skip [deep : Deep 1 test] : Deep 2 fun ts => test (Tree.skip ts) where
  inside {ts} found := by
    obtain ⟨-, long⟩ := deep.inside found
    rw [Tree.skip_eq_drop, List.length_drop] at long
    split at long <;> omega

end Deep

/-! ### The tests of the grammar -/

namespace Steady

variable {stopped : Bool}

instance atMutSelf : Steady stopped Grammar.atMutSelf := by
  unfold Grammar.atMutSelf
  infer_instance

instance atQuantified : Steady stopped Grammar.atQuantified := by
  unfold Grammar.atQuantified
  infer_instance

instance atBuiltin : Steady stopped Grammar.atBuiltin := by
  unfold Grammar.atBuiltin
  infer_instance

instance atBound (forms : BoundForms) : Steady stopped (Grammar.atBound forms) := by
  unfold Grammar.atBound
  infer_instance

instance atParameters : Steady stopped Grammar.atParameters := by
  unfold Grammar.atParameters
  dsimp only
  infer_instance

instance atBar : Steady stopped Grammar.atBar := by
  unfold Grammar.atBar
  infer_instance

instance atPathPattern : Steady stopped Grammar.atPathPattern := by
  unfold Grammar.atPathPattern
  dsimp only
  infer_instance

instance atAssign : Steady stopped atAssign := by
  unfold Code.atAssign
  infer_instance

instance atPoint : Steady stopped atPoint := by
  unfold Code.atPoint
  infer_instance

instance atExpr : Steady stopped atExpr := by
  unfold Code.atExpr
  infer_instance

instance afterCast : Steady stopped Grammar.afterCast := by
  unfold Grammar.afterCast
  infer_instance

instance atQuantifier : Steady stopped Grammar.atQuantifier := by
  unfold Grammar.atQuantifier
  infer_instance

instance atAsyncBlock : Steady stopped Grammar.atAsyncBlock := by
  unfold Grammar.atAsyncBlock
  dsimp only
  infer_instance

instance atClosure : Steady stopped Grammar.atClosure := by
  unfold Grammar.atClosure
  dsimp only
  infer_instance

instance atPathExpr : Steady stopped Grammar.atPathExpr := by
  unfold Grammar.atPathExpr
  dsimp only
  infer_instance

/-- A fragment ends where nothing comes after it or a semicolon does. -/
instance ended : Steady stopped fun ts => ts.isEmpty || Tree.atOperator ";" ts where
  same placed := by
    cases placed with
    | alone => rfl
    | stop | last => rfl
    | cons tree rest => cases tree <;> rfl

instance atEndOfRange : Steady stopped fun ts => ts.isEmpty || Tree.atOperator "|" ts ||
    Tree.atOperator "=" ts || (Tree.atOperator ":" ts && !Tree.atOperator "::" ts) ||
    Tree.atOperator "," ts || Tree.atOperator ";" ts || Tree.atWord "if" ts := by
  have same : Steady stopped fun ts => (ts.isEmpty || Tree.atOperator ";" ts) ||
      (Tree.atOperator "|" ts || Tree.atOperator "=" ts ||
        (Tree.atOperator ":" ts && !Tree.atOperator "::" ts) || Tree.atOperator "," ts ||
        Tree.atWord "if" ts) := inferInstance
  convert same using 2
  ac_rfl

theorem any {texts : List String}
    (signs : ∀ text ∈ texts, text.toList ≠ [] ∧ ';' ∉ text.toList) :
    Steady stopped fun ts => texts.any fun text => Tree.atOperator text ts where
  same placed := by
    rw [Bool.eq_iff_iff, List.any_eq_true, List.any_eq_true]
    refine exists_congr fun text => and_congr_right fun listed => ?_
    have : Sign stopped text := .of_listed listed signs
    rw [(atOperator text).same placed]

instance atRangeEnd (struct : Bool) : Steady stopped (Code.atRangeEnd struct) := by
  have listed : Steady stopped fun ts => ["?", "=>", "=", "+", "/", "%", "^", ">", "<=", "!=",
      "-=", "*=", "&=", "|=", "<<="].any fun text => Tree.atOperator text ts := any (by decide)
  have same : Steady stopped fun ts => (ts.isEmpty || Tree.atOperator ";" ts) ||
      (Tree.atOperator "," ts || Code.atPoint ts || (!struct && Tree.atGroup .brace ts) ||
        Tree.atWord "as" ts || ["?", "=>", "=", "+", "/", "%", "^", ">", "<=", "!=",
          "-=", "*=", "&=", "|=", "<<="].any fun text => Tree.atOperator text ts) := inferInstance
  unfold Code.atRangeEnd
  convert same using 2
  ac_rfl

end Steady

namespace Placed

variable {stopped : Bool} {ts ts' : List Tree}

theorem sign_of_binaryOperator {text : String} {precedence : Precedence}
    (listed : (text, precedence) ∈ binaryOperators) : Sign stopped text :=
  have signs : ∀ text ∈ binaryOperators.map (·.1), text.toList ≠ [] ∧ ';' ∉ text.toList := by
    decide
  .of_listed (List.mem_map_of_mem listed) signs

theorem binaryOperator? (placed : Placed stopped ts ts') :
    Code.binaryOperator? ts' = Code.binaryOperator? ts := by
  refine List.find?_congr fun entry listed => ?_
  have : Sign stopped entry.1 := sign_of_binaryOperator listed
  exact (Steady.atOperator entry.1).same placed

theorem nextPrecedence (placed : Placed stopped ts ts') :
    Code.nextPrecedence ts' = Code.nextPrecedence ts := by
  unfold Code.nextPrecedence
  rw [placed.binaryOperator?, Steady.atAssign.same placed, (Steady.atOperator "..").same placed,
    (Steady.atWord "as").same placed]

end Placed

end Companion.Code

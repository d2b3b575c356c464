import Companion.Proofs.Code.Placed
import Companion.Proofs.Code.Readers

/-! Readers that do the same with a fragment alone and in its place.

What a reader does is put together from what its parts do. The rules are instances, one for each
way in which the grammar combines readers, so that a production is alike to itself over another
grammar because its parts are: instance resolution follows the text of the production. What is left
to the rules is whether something has been read already, because a reader may then use productions
that agree on fewer tokens only.
-/

set_option autoImplicit false

namespace Companion.Code

/-! ### Readers of fragments -/

/-- The same value, read off the front of a fragment alone and in its place; something was read if
`moves` says so. -/
structure SameRead {α : Type} (stopped : Bool) (moves : α → Bool) (ts : List Tree)
    (result result' : α × List Tree) : Prop where
  value : result.1 = result'.1
  placed : Placed stopped result.2 result'.2
  left : result.2 <:+ ts
  moved : moves result.1 = true → result.2.length < ts.length

/-- The readers do the same with every fragment of less than `size` tokens, or of as many unless a
token in front of it has been read (`moved`). -/
class Alike {α : Type} (stopped : Bool) (size : Nat) (moved : Bool) (moves : α → Bool)
    (reader reader' : Reader α) : Prop where
  run {ts ts' : List Tree} (placed : Placed stopped ts ts')
    (light : weight ts < size + (!moved).toNat) :
    Option.Rel (SameRead stopped moves ts) (reader.run ts) (reader'.run ts')

/-- Nothing is said about what was read. -/
abbrev maybe {α : Type} : α → Bool := fun _ => false

/-- Something was read. -/
abbrev surely {α : Type} : α → Bool := fun _ => true

namespace Alike

open Reader

variable {α β σ : Type} {stopped moved : Bool} {size : Nat} {moves : α → Bool} {moves' : β → Bool}
  {p p' : Reader α} {f f' : α → Reader β}

section

variable {ts us : List Tree}

theorem light_of_left (light : weight ts < size + (!moved).toNat) (left : us <:+ ts) :
    weight us < size + (!moved).toNat :=
  Nat.lt_of_le_of_lt (weight_le left) light

theorem light_of_shorter (light : weight ts < size + (!moved).toNat) (left : us <:+ ts)
    (shorter : us.length < ts.length) : weight us < size := by
  have lighter := weight_lt left shorter
  have most := Bool.toNat_le (!moved)
  omega

end

theorem rel_bind {γ δ : Type} {rel : γ → γ → Prop} {rel' : δ → δ → Prop} {r r' : Option γ}
    {next next' : γ → Option δ} (first : Option.Rel rel r r')
    (second : ∀ a a', rel a a' → Option.Rel rel' (next a) (next' a')) :
    Option.Rel rel' (r.bind next) (r'.bind next') := by
  cases first with
  | none => exact .none
  | some same => exact second _ _ same

theorem rel_mono {γ : Type} {rel rel' : γ → γ → Prop} {r r' : Option γ}
    (first : Option.Rel rel r r') (le : ∀ a a', rel a a' → rel' a a') : Option.Rel rel' r r' := by
  cases first with
  | none => exact .none
  | some same => exact .some (le _ _ same)

theorem rel_ite {γ : Type} {rel : γ → γ → Prop} {c : Prop} [Decidable c] {r r' q q' : Option γ}
    (first : Option.Rel rel r r') (second : Option.Rel rel q q') :
    Option.Rel rel (if c then r else q) (if c then r' else q') := by
  split
  · exact first
  · exact second

theorem mono (alike : Alike stopped size moved moves p p') {less : α → Bool}
    (le : ∀ a, less a = true → moves a = true) : Alike stopped size moved less p p' where
  run placed light := rel_mono (alike.run placed light) fun _ _ same =>
    { same with moved := fun less => same.moved (le _ less) }

theorem of_fresh (alike : Alike stopped size false moves p p') :
    Alike stopped size moved moves p p' where
  run placed light := alike.run placed (by
    have most := Bool.toNat_le (!moved)
    simp only [Bool.not_false, Bool.toNat_true]
    omega)

/-- What the first reader has read, the second need not. -/
theorem bind_of (first : Alike stopped size moved moves p p')
    (second : ∀ a, Alike stopped size (moves a || moved) (fun b => moves' b && !moves a)
      (f a) (f' a)) :
    Alike stopped size moved moves' (p >>= f) (p' >>= f') where
  run {ts ts'} placed light := by
    rw [StateT.run_bind, StateT.run_bind]
    refine rel_bind (first.run placed light) ?_
    rintro ⟨a, us⟩ ⟨a', us'⟩ ⟨rfl, placed', left, shorter⟩
    have lighter : weight us < size + (!(moves a || moved)).toNat := by
      cases reads : moves a with
      | true => exact light_of_shorter light left (shorter reads)
      | false => exact light_of_left light left
    refine rel_mono ((second a).run placed' lighter) fun r r' same =>
      { same with left := same.left.trans left, moved := fun reads => ?_ }
    have long := left.length_le
    have long' := same.left.length_le
    cases before : moves a with
    | true => exact Nat.lt_of_le_of_lt long' (shorter before)
    | false => exact Nat.lt_of_lt_of_le (same.moved (by simp [reads, before])) long

theorem seq (first : Alike stopped size moved maybe p p')
    (second : ∀ a, Alike stopped size moved moves' (f a) (f' a)) :
    Alike stopped size moved moves' (p >>= f) (p' >>= f') :=
  first.bind_of fun a => by simpa using second a

theorem seq_surely (first : Alike stopped size moved surely p p')
    (second : ∀ a, Alike stopped size true maybe (f a) (f' a)) :
    Alike stopped size moved moves' (p >>= f) (p' >>= f') :=
  first.bind_of fun a => by simpa using second a

theorem choice {c : Prop} [Decidable c] {q q' : Reader α}
    (first : Alike stopped size moved moves p p') (second : Alike stopped size moved moves q q') :
    Alike stopped size moved moves (if c then p else q) (if c then p' else q') := by
  split
  · exact first
  · exact second

instance bind [first : Alike stopped size moved maybe p p']
    [second : ∀ a, Alike stopped size moved moves' (f a) (f' a)] :
    Alike stopped size moved moves' (p >>= f) (p' >>= f') :=
  first.seq second

instance (priority := high) bind_surely [first : Alike stopped size moved surely p p']
    [second : ∀ a, Alike stopped size true maybe (f a) (f' a)] :
    Alike stopped size moved moves' (p >>= f) (p' >>= f') :=
  first.seq_surely second

/-- The first reader tells whether it has read something. -/
theorem told {p p' : Reader Bool} {q q' r r' : Reader β}
    (first : Alike stopped size moved id p p') (found : Alike stopped size true maybe q q')
    (absent : Alike stopped size moved moves' r r') :
    Alike stopped size moved moves' (p >>= fun told => if told = true then q else r)
      (p' >>= fun told => if told = true then q' else r') :=
  first.bind_of fun told => by cases told <;> simpa

instance bind_told {p p' : Reader Bool} {q q' r r' : Reader β}
    [first : Alike stopped size moved id p p'] [found : Alike stopped size true maybe q q']
    [absent : Alike stopped size moved moves' r r'] :
    Alike stopped size moved moves' (p >>= fun told => if told = true then q else r)
      (p' >>= fun told => if told = true then q' else r') :=
  first.told found absent

instance ite {c : Prop} [Decidable c] {q q' : Reader α}
    [first : Alike stopped size moved moves p p'] [second : Alike stopped size moved moves q q'] :
    Alike stopped size moved moves (if c then p else q) (if c then p' else q') :=
  first.choice second

theorem pure_of (a : α) (stays : moves a = false) :
    Alike stopped size moved moves (pure a : Reader α) (pure a) where
  run placed light := .some ⟨rfl, placed, List.suffix_rfl, by simp [stays]⟩

instance pure (a : α) : Alike stopped size moved maybe (pure a : Reader α) (pure a) :=
  pure_of a rfl

instance pure_false :
    Alike stopped size moved id (Pure.pure false : Reader Bool) (Pure.pure false) :=
  pure_of false rfl

instance pure_done (s : σ) : Alike stopped size moved Prod.fst
    (Pure.pure (false, s) : Reader (Bool × σ)) (Pure.pure (false, s)) :=
  pure_of (false, s) rfl

instance failure : Alike stopped size moved moves (failure : Reader α) failure where
  run _ _ := .none

instance guarded (c : Prop) [Decidable c] :
    Alike stopped size moved maybe (guard c : Reader Unit) (guard c) := by
  by_cases holds : c
  · simpa [holds] using pure ()
  · simpa [holds] using failure

/-- Only a reader that has read something goes on. -/
instance bind_guard {p p' : Reader Bool} {f f' : Unit → Reader β}
    [first : Alike stopped size moved id p p']
    [second : ∀ u, Alike stopped size true maybe (f u) (f' u)] :
    Alike stopped size moved moves' (p >>= fun told => guard (told = true) >>= f)
      (p' >>= fun told => guard (told = true) >>= f') :=
  first.bind_of fun told => by
    cases told with
    | false => simpa using failure
    | true => simpa using second ()

instance seqRight {q q' : Reader β} [Alike stopped size moved maybe p p']
    [Alike stopped size moved moves' q q'] :
    Alike stopped size moved moves' (p *> q) (p' *> q') := by
  rw [seqRight_eq_bind, seqRight_eq_bind]
  infer_instance

instance map {g : α → β} [alike : Alike stopped size moved maybe p p'] :
    Alike stopped size moved maybe (g <$> p) (g <$> p') := by
  rw [map_eq_pure_bind, map_eq_pure_bind]
  infer_instance

instance map_surely {g : α → β} [alike : Alike stopped size moved surely p p'] :
    Alike stopped size moved moves' (g <$> p) (g <$> p') := by
  rw [map_eq_pure_bind, map_eq_pure_bind]
  infer_instance

theorem rest {f f' : List Tree → Reader β}
    (alike : ∀ place : Place stopped,
      Alike stopped size moved moves' (f place.alone) (f' place.placed)) :
    Alike stopped size moved moves' (rest >>= f) (rest >>= f') where
  run {ts ts'} placed light := (alike ⟨ts, ts', placed⟩).run placed light

/-! ### One tree after another -/

theorem of_head {p : Reader α} (empty : p.run [] = none)
    (marks : ∀ mark joint ts, p.run (.punct mark joint :: ts) = none)
    (first : ∀ tree, ∃ found : Option α, ∀ ts, p.run (tree :: ts) = found.map fun a => (a, ts)) :
    Alike stopped size moved moves p p where
  run placed light := by
    have alone (tree : Tree) {ts ts' : List Tree} (placed : Placed stopped ts ts') :
        Option.Rel (SameRead stopped moves (tree :: ts)) (p.run (tree :: ts))
          (p.run (tree :: ts')) := by
      obtain ⟨found, same⟩ := first tree
      rw [same, same]
      cases found with
      | none => exact .none
      | some a => exact .some ⟨rfl, placed, List.suffix_cons _ _, fun _ => by simp⟩
    cases placed with
    | alone =>
      rename_i ts
      cases ts with
      | nil =>
        rw [empty]
        exact .none
      | cons tree ts => exact alone tree (.alone ts)
    | stop joint =>
      rw [empty, marks]
      exact .none
    | last =>
      rw [marks, marks]
      exact .none
    | cons tree rest => exact alone tree rest

instance ident {moves : String → Bool} : Alike stopped size moved moves ident ident :=
  of_head rfl (fun _ _ _ => rfl) fun tree => by
    cases tree with
    | ident name =>
      by_cases word : name ∈ Tree.reserved
      · exact ⟨none, fun ts => by simp [Reader.ident, word]⟩
      · exact ⟨some name, fun ts => by simp [Reader.ident, word]⟩
    | _ => exact ⟨none, fun _ => rfl⟩

instance anyWord {moves : String → Bool} : Alike stopped size moved moves anyWord anyWord :=
  of_head rfl (fun _ _ _ => rfl) fun tree => by
    cases tree with
    | ident name => exact ⟨some name, fun _ => rfl⟩
    | _ => exact ⟨none, fun _ => rfl⟩

instance anyGroup {moves : Delimiter → Bool} : Alike stopped size moved moves anyGroup anyGroup :=
  of_head rfl (fun _ _ _ => rfl) fun tree => by
    cases tree with
    | group d body => exact ⟨some d, fun _ => rfl⟩
    | _ => exact ⟨none, fun _ => rfl⟩

instance quotedText {moves : Unit → Bool} :
    Alike stopped size moved moves quotedText quotedText :=
  of_head rfl (fun _ _ _ => rfl) fun tree => by
    cases tree with
    | literal text =>
      by_cases quoted : (text.toList.head?.any fun c => c == '"' || c == 'r') = true
      · exact ⟨some (), fun ts => by simp [Reader.quotedText, quoted]⟩
      · exact ⟨none, fun ts => by simp [Reader.quotedText, quoted]⟩
    | _ => exact ⟨none, fun _ => rfl⟩

instance peek (test : List Tree → Bool) [steady : Steady stopped test] :
    Alike stopped size moved maybe (peek test) (peek test) where
  run placed _ := .some ⟨(steady.same placed).symm, placed, List.suffix_rfl, nofun⟩

instance expect (test : List Tree → Bool) [steady : Steady stopped test] :
    Alike stopped size moved maybe (expect test) (expect test) :=
  rest fun place => by
    rw [steady.same place.isPlaced]
    infer_instance

instance rest_const {q q' : Reader β} [alike : Alike stopped size moved moves' q q'] :
    Alike stopped size moved moves' (Reader.rest >>= fun _ => q) (Reader.rest >>= fun _ => q') :=
  rest fun _ => alike

/-- What a test finds is known where it holds. -/
instance rest_if {test : List Tree → Bool} [steady : Steady stopped test]
    {f f' g g' : List Tree → Reader β}
    [found : ∀ place : Place stopped, Alike stopped size moved moves'
      (Reader.expect test >>= fun _ => f place.alone)
      (Reader.expect test >>= fun _ => f' place.placed)]
    [absent : Alike stopped size moved moves' (Reader.rest >>= g) (Reader.rest >>= g')] :
    Alike stopped size moved moves'
      (Reader.rest >>= fun ts => if test ts = true then f ts else g ts)
      (Reader.rest >>= fun ts => if test ts = true then f' ts else g' ts) where
  run {ts ts'} placed light := by
    have run (f g : List Tree → Reader β) (ts : List Tree) :
        (Reader.rest >>= fun ts => if test ts = true then f ts else g ts).run ts =
          if test ts then (Reader.expect test >>= fun _ => f ts).run ts
          else (Reader.rest >>= g).run ts := by
      cases holds : test ts <;> simp [Reader.expect, holds]
    rw [run, run, steady.same placed]
    split
    · exact (found ⟨ts, ts', placed⟩).run placed light
    · exact absent.run placed light

instance atEnd : Alike false size moved maybe atEnd atEnd := peek List.isEmpty

/-- Trees that a test has found are read before what goes on after them. -/
instance expect_drop {test : List Tree → Bool} {count : Nat} [steady : Steady stopped test]
    [deep : Deep count test] {f f' : Unit → Reader β}
    [more : ∀ u, Alike stopped size true maybe (f u) (f' u)] :
    Alike stopped size moved moves' (Reader.expect test >>= fun _ => Reader.drop count >>= f)
      (Reader.expect test >>= fun _ => Reader.drop count >>= f') where
  run {ts ts'} placed light := by
    have run (f : Unit → Reader β) (ts : List Tree) :
        (Reader.expect test >>= fun _ => Reader.drop count >>= f).run ts =
          if test ts then (f ()).run (ts.drop count) else none := by
      cases found : test ts <;> simp [Reader.expect, Reader.drop, found]
    rw [run, run, steady.same placed]
    split
    next found =>
      obtain ⟨positive, long⟩ := deep.inside found
      have shorter : (ts.drop count).length < ts.length := by
        rw [List.length_drop]
        omega
      have lighter := light_of_shorter light (List.drop_suffix _ _) shorter
      refine rel_mono ((more ()).run (placed.drop long) (by simpa using lighter)) fun _ _ same => ?_
      exact { same with
        left := same.left.trans (List.drop_suffix _ _)
        moved := fun _ => Nat.lt_of_le_of_lt same.left.length_le shorter }
    next => exact .none

theorem expect_drop_alone {test : List Tree → Bool} {count : Nat} [Steady stopped test]
    [Deep count test] {moves : Unit → Bool} :
    Alike stopped size moved moves (Reader.expect test >>= fun _ => Reader.drop count)
      (Reader.expect test >>= fun _ => Reader.drop count) := by
  have whole : Alike stopped size moved moves
      (Reader.expect test >>= fun _ => Reader.drop count >>= Pure.pure)
      (Reader.expect test >>= fun _ => Reader.drop count >>= Pure.pure) := inferInstance
  simpa using whole

instance peek_drop {test : List Tree → Bool} {count : Nat} [steady : Steady stopped test]
    [Deep count test] {f f' : Unit → Reader β} {r r' : Reader β}
    [found : ∀ u, Alike stopped size true maybe (f u) (f' u)]
    [absent : Alike stopped size moved moves' r r'] :
    Alike stopped size moved moves'
      (Reader.peek test >>= fun found => if found = true then Reader.drop count >>= f else r)
      (Reader.peek test >>= fun found => if found = true then Reader.drop count >>= f' else r') :=
  (rest_if : Alike stopped size moved moves'
    (Reader.rest >>= fun ts => if test ts = true then Reader.drop count >>= f else r)
    (Reader.rest >>= fun ts => if test ts = true then Reader.drop count >>= f' else r'))

instance operator (text : String) [sign : Sign stopped text] {moves : Unit → Bool} :
    Alike stopped size moved moves (operator text) (operator text) :=
  have := sign.alone
  expect_drop_alone

instance word (text : String) {moves : Unit → Bool} :
    Alike stopped size moved moves (word text) (word text) :=
  expect_drop_alone

theorem told_of_run {p : Reader Bool} {test : List Tree → Bool} {count : Nat}
    [steady : Steady stopped test] [deep : Deep count test]
    (run : ∀ ts, p.run ts = some (test ts, if test ts then ts.drop count else ts)) :
    Alike stopped size moved id p p where
  run {ts ts'} placed _ := by
    rw [run, run, steady.same placed]
    split
    next found =>
      obtain ⟨positive, long⟩ := deep.inside found
      exact .some ⟨rfl, placed.drop long, List.drop_suffix _ _, fun _ => by simp; omega⟩
    next absent => exact .some ⟨rfl, placed, List.suffix_rfl, fun found => absurd found absent⟩

instance operator? (text : String) [sign : Sign stopped text] :
    Alike stopped size moved id (operator? text) (operator? text) :=
  have := sign.alone
  told_of_run (run_operator? text)

instance operator?_maybe (text : String) [Sign stopped text] :
    Alike stopped size moved maybe (Reader.operator? text) (Reader.operator? text) :=
  (operator? text).mono nofun

instance word? (text : String) : Alike stopped size moved id (word? text) (word? text) :=
  told_of_run fun ts => run_word? ts

instance word?_maybe (text : String) :
    Alike stopped size moved maybe (Reader.word? text) (Reader.word? text) :=
  (word? text).mono nofun

/-- Only a mark is joined to what comes after it. -/
theorem of_unmarked {tree : Tree} {ts us' : List Tree}
    (unmarked : ∀ mark joint, tree ≠ .punct mark joint) (placed : Placed stopped (tree :: ts) us') :
    ∃ ts', us' = tree :: ts' ∧ Placed stopped ts ts' := by
  cases placed with
  | alone => exact ⟨ts, rfl, .alone ts⟩
  | last => exact absurd rfl (unmarked _ _)
  | cons _ rest => exact ⟨_, rfl, rest⟩

theorem of_pair {tree next : Tree} {ts us' : List Tree}
    (unmarked : ∀ mark joint, next ≠ .punct mark joint)
    (placed : Placed stopped (tree :: next :: ts) us') :
    ∃ ts', us' = tree :: next :: ts' ∧ Placed stopped ts ts' := by
  cases placed with
  | alone => exact ⟨ts, rfl, .alone ts⟩
  | cons _ rest =>
    obtain ⟨ts', rfl, placed⟩ := of_unmarked unmarked rest
    exact ⟨ts', rfl, placed⟩

instance lifetime {moves : String → Bool} :
    Alike stopped size moved moves lifetime lifetime where
  run {ts ts'} placed _ := by
    have absent {ts : List Tree} (absent : ¬ Tree.atLifetime ts = true) :
        Reader.lifetime.run ts = none := by
      unfold Reader.lifetime
      change (match ts with
        | .punct '\'' true :: .ident name :: rest => (do set rest; return name : Reader String)
        | _ => Alternative.failure).run ts = none
      split
      next => exact absurd rfl absent
      next => rfl
    by_cases found : Tree.atLifetime ts = true
    · obtain ⟨tree, ts, rfl⟩ := List.exists_cons_of_length_pos
        (Nat.lt_of_lt_of_le (by decide) (Tree.length_of_atLifetime found))
      obtain ⟨rfl, word⟩ := Tree.atLifetime_cons_iff.mp found
      obtain ⟨name, rest, rfl⟩ := Tree.atAnyWord_iff.mp word
      obtain ⟨rest', rfl, placed'⟩ := of_pair (fun _ _ => Tree.noConfusion) placed
      exact .some ⟨rfl, placed', ⟨[_, _], rfl⟩, fun _ => by simp⟩
    · rw [absent found, absent (by rwa [Steady.atLifetime.same placed])]
      exact .none

instance lifetime? : Alike stopped size moved maybe lifetime? lifetime? := by
  dsimp only [Reader.lifetime?]
  infer_instance

instance literal {moves : String → Bool} :
    Alike stopped size moved moves literal literal where
  run {ts ts'} placed _ := by
    have absent {ts : List Tree} (absent : ¬ Tree.atLiteral ts = true) :
        Reader.literal.run ts = none := by
      simp [Reader.literal, Reader.expect, absent]
    by_cases found : Tree.atLiteral ts = true
    · cases ts with
      | nil => cases found
      | cons tree ts =>
        cases tree with
        | group => cases found
        | literal text =>
          obtain ⟨ts', rfl, placed'⟩ := of_unmarked (fun _ _ => Tree.noConfusion) placed
          exact .some ⟨rfl, placed', List.suffix_cons _ _, fun _ => by simp⟩
        | ident name =>
          obtain ⟨ts', rfl, placed'⟩ := of_unmarked (fun _ _ => Tree.noConfusion) placed
          have read (ts : List Tree) :
              Reader.literal.run (.ident name :: ts) = some (name, ts) := by
            have found : Tree.atLiteral (.ident name :: ts) = true := found
            simp [Reader.literal, Reader.expect, found]
          rw [read, read]
          exact .some ⟨rfl, placed', List.suffix_cons _ _, fun _ => by simp⟩
        | punct mark joint =>
          obtain ⟨rfl, text, rest, rfl, digit⟩ := Tree.atLiteral_punct_iff.mp found
          obtain ⟨rest', rfl, placed'⟩ := of_pair (fun _ _ => Tree.noConfusion) placed
          have read (ts : List Tree) :
              Reader.literal.run (.punct '-' joint :: .literal text :: ts) =
                some ("-" ++ text, ts) := by
            have found : Tree.atLiteral (.punct '-' joint :: .literal text :: ts) = true := found
            simp [Reader.literal, Reader.expect, found]
          rw [read, read]
          exact .some ⟨rfl, placed', ⟨[_, _], rfl⟩, fun _ => by simp⟩
    · rw [absent found, absent (by rwa [Steady.atLiteral.same placed])]
      exact .none

/-- With nothing after it, a fragment may be read past its end. -/
instance drop (count : Nat) : Alike false size moved maybe (drop count) (drop count) where
  run placed _ := by
    rw [placed.eq]
    exact .some ⟨rfl, .alone _, List.drop_suffix _ _, nofun⟩

instance anything : Alike false size moved maybe anything anything where
  run _ _ := .some ⟨rfl, .alone [], List.nil_suffix, nofun⟩

/-- With nothing after it, a fragment in its place is what it is alone. -/
instance rest_alone {moves' : β → Bool} {f f' : List Tree → Reader β}
    [alike : ∀ ts, Alike false size moved moves' (f ts) (f' ts)] :
    Alike false size moved moves' (Reader.rest >>= f) (Reader.rest >>= f') :=
  rest fun place => by
    rw [place.isPlaced.eq]
    exact alike _

/-- With nothing after it, a reader is alike to itself, whatever it looks at. -/
theorem of_suffix {p : Reader α}
    (suffix : ∀ ts a left, p.run ts = some (a, left) → left <:+ ts) :
    Alike false size moved maybe p p where
  run {ts ts'} placed _ := by
    rw [placed.eq]
    cases read : p.run ts with
    | none => exact .none
    | some r => exact .some ⟨rfl, .alone _, suffix ts r.1 r.2 read, nofun⟩

instance endedInBrace (before : Place stopped) : Alike stopped size moved maybe
    (endedInBrace before.alone) (endedInBrace before.placed) where
  run {ts ts'} placed _ := by
    have long := before.isPlaced.length_eq
    have long' := placed.length_eq
    have count : before.placed.length - ts'.length = before.alone.length - ts.length := by omega
    refine .some ⟨?_, placed, List.suffix_rfl, nofun⟩
    change (List.getLast? (before.alone.take (before.alone.length - ts.length))).any _ =
      (List.getLast? (before.placed.take (before.placed.length - ts'.length))).any _
    rw [count, before.isPlaced.endsInBrace (Nat.sub_le _ _)]

/-! ### Groups and loops -/

instance within (delimiter : Delimiter) {p p' : Reader α}
    [body : Alike false size true maybe p p'] :
    Alike stopped size moved moves (within delimiter p) (within delimiter p') where
  run {ts ts'} placed light := by
    have inside (p : Reader α) (trees ts : List Tree) :
        (Reader.within delimiter p).run (.group delimiter trees :: ts) =
          (p.run trees).bind fun r => if r.2.isEmpty then some (r.1, ts) else none := by
      rcases read : p.run trees with - | ⟨a, - | ⟨tree, left⟩⟩ <;> simp [Reader.within, read]
    by_cases opens : ∃ trees rest, ts = .group delimiter trees :: rest
    · obtain ⟨trees, rest, rfl⟩ := opens
      obtain ⟨rest', rfl, placed'⟩ := of_unmarked (fun _ _ => Tree.noConfusion) placed
      have lighter : weight trees < size := by
        have most := Bool.toNat_le (!moved)
        rw [weight_group] at light
        omega
      rw [inside, inside]
      refine rel_bind (body.run (.alone trees) lighter) ?_
      rintro ⟨a, left⟩ ⟨_, left'⟩ ⟨rfl, same, -, -⟩
      have same := same.eq
      simp only at same
      subst same
      split
      · exact .some ⟨rfl, placed', List.suffix_cons _ _, fun _ => by simp⟩
      · exact .none
    · have outside (p : Reader α) {ts : List Tree}
          (other : ¬ ∃ trees rest, ts = .group delimiter trees :: rest) :
          (Reader.within delimiter p).run ts = none := by
        rw [Option.eq_none_iff_forall_not_mem]
        rintro ⟨a, left⟩ read
        obtain ⟨trees, rfl, -⟩ := run_within.mp read
        exact other ⟨trees, left, rfl⟩
      rw [outside p opens, outside p']
      · exact .none
      · rintro ⟨trees, rest, rfl⟩
        cases placed with
        | alone => exact opens ⟨trees, rest, rfl⟩
        | cons => exact opens ⟨trees, _, rfl⟩

/-- Each step that goes on reads a tree, so that both loops stop in time. -/
theorem loopWithin {step step' : σ → Reader (Bool × σ)}
    (alike : ∀ s, Alike stopped size moved Prod.fst (step s) (step' s)) {fuel fuel' : Nat} (s : σ)
    {ts ts' : List Tree} (placed : Placed stopped ts ts')
    (light : weight ts < size + (!moved).toNat) (enough : ts.length < fuel)
    (enough' : ts'.length < fuel') :
    Option.Rel (SameRead stopped maybe ts) ((loopWithin step fuel s).run ts)
      ((Reader.loopWithin step' fuel' s).run ts') := by
  induction fuel generalizing fuel' s ts ts' with
  | zero => exact absurd enough (Nat.not_lt_zero _)
  | succ fuel ih =>
    obtain ⟨fuel', rfl⟩ := Nat.exists_eq_succ_of_ne_zero (Nat.ne_zero_of_lt enough')
    simp only [Reader.loopWithin, StateT.run_bind]
    refine rel_bind ((alike s).run placed light) ?_
    rintro ⟨⟨more, s'⟩, us⟩ ⟨_, us'⟩ ⟨rfl, placed', left, moves⟩
    have placed' : Placed stopped us us' := placed'
    have long := placed.length_eq
    have long' := placed'.length_eq
    cases more with
    | false => exact .some ⟨rfl, placed', left, fun moved => absurd moved Bool.false_ne_true⟩
    | true =>
      have shorter : us.length < ts.length := moves rfl
      have lasts : us.length < fuel := by omega
      have lasts' : us'.length < fuel' := by omega
      refine rel_mono (ih s' placed' (light_of_left light left) lasts lasts') fun _ _ same => ?_
      exact { same with
        left := same.left.trans left
        moved := fun moved => absurd moved Bool.false_ne_true }

theorem loop_of {step step' : σ → Reader (Bool × σ)}
    (alike : ∀ s, Alike stopped size moved Prod.fst (step s) (step' s)) (s : σ) :
    Alike stopped size moved maybe (loop step s) (loop step' s) where
  run placed light := loopWithin alike s placed light (Nat.lt_succ_self _) (Nat.lt_succ_self _)

instance loop {step step' : σ → Reader (Bool × σ)} (s : σ)
    [alike : ∀ s, Alike stopped size moved Prod.fst (step s) (step' s)] :
    Alike stopped size moved maybe (loop step s) (loop step' s) :=
  loop_of alike s

/-- The first step of a loop always runs. -/
instance loop_surely {step step' : σ → Reader (Bool × σ)} {moves : σ → Bool} (s : σ)
    [alike : ∀ s, Alike stopped size moved surely (step s) (step' s)] :
    Alike stopped size moved moves (Reader.loop step s) (Reader.loop step' s) where
  run {ts ts'} placed light := by
    change Option.Rel _ ((Reader.loopWithin step (ts.length + 1) s).run ts)
      ((Reader.loopWithin step' (ts'.length + 1) s).run ts')
    simp only [Reader.loopWithin, StateT.run_bind]
    refine rel_bind ((alike s).run placed light) ?_
    rintro ⟨⟨more, s'⟩, us⟩ ⟨_, us'⟩ ⟨rfl, placed', left, moves⟩
    have placed' : Placed stopped us us' := placed'
    have shorter : us.length < ts.length := moves rfl
    have long := placed.length_eq
    have long' := placed'.length_eq
    cases more with
    | false => exact .some ⟨rfl, placed', left, fun _ => shorter⟩
    | true =>
      have goesOn (s : σ) : Alike stopped size moved Prod.fst (step s) (step' s) :=
        (alike s).mono fun _ _ => rfl
      have lasts' : us'.length < ts'.length := by omega
      refine rel_mono (loopWithin goesOn s' placed' (light_of_left light left) shorter lasts')
        fun _ _ same => ?_
      exact { same with
        left := same.left.trans left
        moved := fun _ => Nat.lt_of_le_of_lt same.left.length_le shorter }

instance repeatWhile {step step' : Reader Bool} [alike : Alike stopped size moved id step step'] :
    Alike stopped size moved maybe (repeatWhile step) (repeatWhile step') := by
  refine loop_of (fun _ => ?_) ()
  exact alike.bind_of fun more => pure_of _ (by cases more <;> rfl)

instance repeatWhile_surely {step step' : Reader Bool} {moves : Unit → Bool}
    [alike : Alike stopped size moved surely step step'] :
    Alike stopped size moved moves (Reader.repeatWhile step) (Reader.repeatWhile step') := by
  dsimp only [Reader.repeatWhile]
  infer_instance

/-- A step that goes on if it has read something. -/
instance progress {p p' : Reader σ} [alike : Alike stopped size moved maybe p p'] :
    Alike stopped size moved Prod.fst
      (Reader.rest >>= fun ts => p >>= fun s =>
        Reader.rest >>= fun us => Pure.pure (decide (us.length < ts.length), s))
      (Reader.rest >>= fun ts => p' >>= fun s =>
        Reader.rest >>= fun us => Pure.pure (decide (us.length < ts.length), s)) where
  run {ts ts'} placed light := by
    refine rel_bind (alike.run placed light) ?_
    rintro ⟨s, us⟩ ⟨s', us'⟩ ⟨rfl, placed', left, -⟩
    have long := placed.length_eq
    have long' : us'.length = us.length + stopped.toNat := placed'.length_eq
    have same : decide (us'.length < ts'.length) = decide (us.length < ts.length) := by
      rw [decide_eq_decide]
      omega
    exact .some ⟨congrArg (·, s) same.symm, placed', left, fun shorter => of_decide_eq_true shorter⟩

instance toEnd {p p' : Reader Unit} [Alike false size moved surely p p'] :
    Alike false size moved maybe (toEnd p) (toEnd p') := by
  dsimp only [Reader.toEnd]
  infer_instance

instance separated {p p' : Reader α} (text : String) [Sign false text]
    [Alike false size moved maybe p p'] :
    Alike false size moved maybe (separated text p) (separated text p') := by
  dsimp only [Reader.separated]
  infer_instance

end Alike

end Companion.Code

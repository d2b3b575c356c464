import Mathlib
import Companion.Code.Cursor
import Companion.Proofs.Code.Trees

/-! What readers of trees give, as triples over the trees that come next.

A reader may fail, so that a triple says what holds if it does not. The names that a reader finds
are names because all those among the trees are.
-/

set_option autoImplicit false
set_option mvcgen.warning false

namespace Companion.Code

open Std.Do

namespace AreNamed

variable {tree : Tree} {trees : List Tree}

theorem drop (named : AreNamed trees) (count : Nat) : AreNamed (trees.drop count) :=
  fun tree member => named tree (List.mem_of_mem_drop member)

theorem head (named : AreNamed (tree :: trees)) : tree.IsNamed := named tree List.mem_cons_self

theorem tail (named : AreNamed (tree :: trees)) : AreNamed trees := named.drop 1

theorem ident {name : String} (named : AreNamed (.ident name :: trees)) :
    Lexer.IsName name.toList ∧ AreNamed trees := by
  cases named.head with
  | ident first => exact ⟨first, named.tail⟩

theorem ident_iff {name : String} :
    AreNamed (.ident name :: trees) ↔ Lexer.IsName name.toList ∧ AreNamed trees :=
  ⟨ident, fun ⟨first, others⟩ => List.forall_mem_cons.mpr ⟨.ident first, others⟩⟩

theorem group {delimiter : Delimiter} {body : List Tree}
    (named : AreNamed (.group delimiter body :: trees)) : AreNamed body := by
  cases named.head with
  | group _ inside => exact inside

end AreNamed

namespace Reader

variable {α σ : Type}

/-! ### Runs -/

theorem run_bind {β : Type} {reader : Reader α} {next : α → Reader β} {ts left : List Tree}
    {b : β} :
    (reader >>= next).run ts = some (b, left) ↔
      ∃ a mid, reader.run ts = some (a, mid) ∧ (next a).run mid = some (b, left) := by
  simp [StateT.run_bind, Option.bind_eq_some_iff]

theorem run_operator? (text : String) (ts : List Tree) :
    (operator? text).run ts = some (Tree.atOperator text ts,
      if Tree.atOperator text ts then ts.drop text.length else ts) := by
  by_cases found : Tree.atOperator text ts <;> simp [operator?, peek, drop, found]

theorem run_operator?_absent {text : String} {ts : List Tree}
    (absent : Tree.atOperator text ts = false) : (operator? text).run ts = some (false, ts) := by
  simp [run_operator?, absent]

section

variable {text name : String} {c : Char} (joint : Bool) (ts : List Tree) (test : List Tree → Bool)

@[simp]
theorem run_rest : rest.run ts = some (ts, ts) := rfl

@[simp]
theorem run_peek : (peek test).run ts = some (test ts, ts) := rfl

@[simp]
theorem run_atEnd : atEnd.run ts = some (ts.isEmpty, ts) := rfl

@[simp]
theorem run_operator_mark (mark : text.toList = [c]) :
    (operator text).run (.punct c joint :: ts) = some ((), ts) := by
  simp [operator, expect, drop, Tree.atOperator, Tree.atMarks, ← String.length_toList, mark]

@[simp]
theorem run_operator?_mark (mark : text.toList = [c]) :
    (operator? text).run (.punct c joint :: ts) = some (true, ts) := by
  simp [run_operator?, Tree.atOperator, Tree.atMarks, ← String.length_toList, mark]

@[simp]
theorem run_colons :
    (operator "::").run (.punct ':' true :: .punct ':' joint :: ts) = some ((), ts) := rfl

@[simp]
theorem run_word? :
    (word? text).run ts =
      some (Tree.atWord text ts, if Tree.atWord text ts then ts.drop 1 else ts) := by
  by_cases found : Tree.atWord text ts <;> simp [word?, drop, found]

@[simp]
theorem run_anyWord : anyWord.run (.ident name :: ts) = some (name, ts) := rfl

theorem run_ident (free : name ∉ Tree.reserved) :
    ident.run (.ident name :: ts) = some (name, ts) := by
  simp [ident, free]

@[simp]
theorem run_lifetime : lifetime.run (.punct '\'' true :: .ident name :: ts) = some (name, ts) := rfl

end

/-! ### Triples -/

/-- Conditions on the trees that are left. -/
abbrev Post (α : Type) := PostCond α (.arg (List Tree) (.except PUnit .pure))

theorem triple_iff {reader : Reader α} {P : List Tree → Prop} {Q : α → List Tree → Prop} :
    ⦃fun ts => ⌜P ts⌝⦄ reader ⦃⇓? a ts => ⌜Q a ts⌝⦄ ↔
      ∀ ts, P ts → ∀ a left, reader.run ts = some (a, left) → Q a left := by
  have alone (ts : List Tree) : (wp⟦reader⟧ (⇓? a ts => ⌜Q a ts⌝) ts).down ↔
      ∀ a left, reader.run ts = some (a, left) → Q a left := by
    change (wp⟦reader.run ts⟧ (fun r => ⌜Q r.1 r.2⌝, ExceptConds.true)).down ↔ _
    cases reader.run ts with
    | none => exact ⟨fun _ => nofun, fun _ => trivial⟩
    | some r =>
      refine ⟨fun holds a left same => ?_, fun holds => holds r.1 r.2 rfl⟩
      cases same
      exact holds
  exact forall_congr' fun ts => imp_congr_right fun _ => alone ts

theorem trivial_spec (reader : Reader α) :
    ⦃fun _ => ⌜True⌝⦄ reader ⦃⇓? _ _ => ⌜True⌝⦄ := by
  rw [triple_iff]
  exact fun _ _ _ _ _ => trivial

/-- Two triples of one reader together. -/
theorem triple_and {reader : Reader α} {P P' : List Tree → Prop} {Q Q' : α → List Tree → Prop}
    (first : ⦃fun ts => ⌜P ts⌝⦄ reader ⦃⇓? a ts => ⌜Q a ts⌝⦄)
    (second : ⦃fun ts => ⌜P' ts⌝⦄ reader ⦃⇓? a ts => ⌜Q' a ts⌝⦄) :
    ⦃fun ts => ⌜P ts ∧ P' ts⌝⦄ reader ⦃⇓? a ts => ⌜Q a ts ∧ Q' a ts⌝⦄ := by
  rw [triple_iff] at *
  exact fun ts holds a left read =>
    ⟨first ts holds.1 a left read, second ts holds.2 a left read⟩

theorem triple_fst {reader : Reader α} {P : List Tree → Prop} {Q : α → Prop}
    {R : α → List Tree → Prop}
    (both : ⦃fun ts => ⌜P ts⌝⦄ reader ⦃⇓? a ts => ⌜Q a ∧ R a ts⌝⦄) :
    ⦃fun ts => ⌜P ts⌝⦄ reader ⦃⇓? a _ => ⌜Q a⌝⦄ := by
  rw [triple_iff] at *
  exact fun ts holds a left read => (both ts holds a left read).1

/-! ### Looking ahead -/

@[spec]
theorem rest_spec {Q : Post (List Tree)} : ⦃fun ts => Q.1 ts ts⦄ rest ⦃Q⦄ := by
  mvcgen [rest]

@[spec]
theorem peek_spec {test : List Tree → Bool} {Q : Post Bool} :
    ⦃fun ts => Q.1 (test ts) ts⦄ peek test ⦃Q⦄ := by
  mvcgen [peek]

@[spec]
theorem atEnd_spec {Q : Post Bool} : ⦃fun ts => Q.1 ts.isEmpty ts⦄ atEnd ⦃Q⦄ := by
  mvcgen [atEnd]

@[spec]
theorem drop_spec {count : Nat} {Q : Post Unit} :
    ⦃fun ts => Q.1 () (ts.drop count)⦄ drop count ⦃Q⦄ := by
  mvcgen [drop]

@[spec]
theorem failure_spec {Q : Post α} : ⦃fun _ => Q.2.1 ⟨⟩⦄ (failure : Reader α) ⦃Q⦄ := by
  intro ts holds
  exact holds

/-! ### Names stay names -/

@[spec]
theorem expect_spec {test : List Tree → Bool} :
    ⦃fun ts => ⌜AreNamed ts⌝⦄ expect test ⦃⇓? _ ts => ⌜test ts ∧ AreNamed ts⌝⦄ := by
  mvcgen [expect, guard]

@[spec]
theorem endedInBrace_spec {before : List Tree} :
    ⦃fun ts => ⌜AreNamed ts⌝⦄ endedInBrace before ⦃⇓? _ ts => ⌜AreNamed ts⌝⦄ := by
  mvcgen [endedInBrace]

@[spec]
theorem operator_spec (text : String) :
    ⦃fun ts => ⌜AreNamed ts⌝⦄ operator text ⦃⇓? _ ts => ⌜AreNamed ts⌝⦄ := by
  mvcgen [operator]
  next _ _ holds => exact holds.2.drop _

@[spec]
theorem operator?_spec (text : String) :
    ⦃fun ts => ⌜AreNamed ts⌝⦄ operator? text ⦃⇓? _ ts => ⌜AreNamed ts⌝⦄ := by
  mvcgen [operator?]
  next named _ _ => exact named.drop _

@[spec]
theorem word_spec (text : String) :
    ⦃fun ts => ⌜AreNamed ts⌝⦄ word text ⦃⇓? _ ts => ⌜AreNamed ts⌝⦄ := by
  mvcgen [word]
  next _ _ holds => exact holds.2.drop _

@[spec]
theorem word?_spec (text : String) :
    ⦃fun ts => ⌜AreNamed ts⌝⦄ word? text ⦃⇓? _ ts => ⌜AreNamed ts⌝⦄ := by
  mvcgen [word?]
  next named _ _ => exact named.drop _

@[spec]
theorem ident_spec :
    ⦃fun ts => ⌜AreNamed ts⌝⦄ ident
      ⦃⇓? name ts => ⌜Lexer.IsName name.toList ∧ name ∉ Tree.reserved ∧ AreNamed ts⌝⦄ := by
  mvcgen [ident]
  next named name left same free =>
    subst same
    exact ⟨named.ident.1, by simpa using free, named.ident.2⟩

@[spec]
theorem lifetime_spec :
    ⦃fun ts => ⌜AreNamed ts⌝⦄ lifetime
      ⦃⇓? name ts => ⌜Lexer.IsName name.toList ∧ AreNamed ts⌝⦄ := by
  mvcgen [lifetime]
  next named name left same =>
    subst same
    exact named.tail.ident

@[spec]
theorem lifetime?_spec :
    ⦃fun ts => ⌜AreNamed ts⌝⦄ lifetime?
      ⦃⇓? found ts => ⌜(∀ name ∈ found, Lexer.IsName name.toList) ∧ AreNamed ts⌝⦄ := by
  mvcgen [lifetime?] <;> simp_all

@[spec]
theorem literal_spec :
    ⦃fun ts => ⌜AreNamed ts⌝⦄ literal ⦃⇓? _ ts => ⌜AreNamed ts⌝⦄ := by
  mvcgen [literal]
  next holds text left same =>
    subst same
    exact holds.2.tail
  next holds name left same =>
    subst same
    exact holds.2.tail
  next holds mark joint text left same =>
    subst same
    exact holds.2.tail.tail

@[spec]
theorem quotedText_spec :
    ⦃fun ts => ⌜AreNamed ts⌝⦄ quotedText ⦃⇓? _ ts => ⌜AreNamed ts⌝⦄ := by
  mvcgen [quotedText, guard]
  next named text left same quoted =>
    subst same
    exact named.tail

@[spec]
theorem anyGroup_spec :
    ⦃fun ts => ⌜AreNamed ts⌝⦄ anyGroup ⦃⇓? _ ts => ⌜AreNamed ts⌝⦄ := by
  mvcgen [anyGroup]
  next named d body left same =>
    subst same
    exact named.tail

/-! ### Groups and loops -/

theorem run_within {delimiter : Delimiter} {body : Reader α} {ts left : List Tree} {a : α} :
    (within delimiter body).run ts = some (a, left) ↔
      ∃ trees, ts = .group delimiter trees :: left ∧ body.run trees = some (a, []) := by
  have inside (d : Delimiter) (trees rest : List Tree) :
      (within delimiter body).run (.group d trees :: rest) = some (a, left) ↔
        (d = delimiter ∧ rest = left) ∧ body.run trees = some (a, []) := by
    by_cases same : d = delimiter
    · subst same
      rcases read : body.run trees with _ | ⟨b, _ | ⟨tree, more⟩⟩ <;>
        simp [within, guard, read, and_comm]
    · simp [within, same]
  rcases ts with _ | ⟨tree, ts⟩
  · simp [within]
  · cases tree with
    | group d trees => simp [inside]
    | _ => simp [within]

theorem within_spec (delimiter : Delimiter) (body : Reader α) (P : α → Prop)
    (inside : ⦃fun ts => ⌜AreNamed ts⌝⦄ body ⦃⇓? a _ => ⌜P a⌝⦄) :
    ⦃fun ts => ⌜AreNamed ts⌝⦄ within delimiter body ⦃⇓? a ts => ⌜P a ∧ AreNamed ts⌝⦄ := by
  rw [triple_iff] at inside ⊢
  intro ts named a left read
  obtain ⟨trees, rfl, whole⟩ := run_within.mp read
  exact ⟨inside trees named.group a [] whole, named.tail⟩

/-- Whatever stands in a group, what comes after it is left. -/
theorem within_keeps (delimiter : Delimiter) (body : Reader α) :
    ⦃fun ts => ⌜AreNamed ts⌝⦄ within delimiter body ⦃⇓? _ ts => ⌜AreNamed ts⌝⦄ := by
  rw [triple_iff]
  intro ts named a left read
  obtain ⟨trees, rfl, -⟩ := run_within.mp read
  exact named.tail

theorem loop_spec (I : σ → List Tree → Prop) (step : σ → Reader (Bool × σ)) (state : σ)
    (keeps : ∀ s, ⦃fun ts => ⌜I s ts⌝⦄ step s ⦃⇓? r ts => ⌜I r.2 ts⌝⦄) :
    ⦃fun ts => ⌜I state ts⌝⦄ loop step state ⦃⇓? s ts => ⌜I s ts⌝⦄ := by
  have within (fuel : Nat) (state : σ) :
      ⦃fun ts => ⌜I state ts⌝⦄ loopWithin step fuel state ⦃⇓? s ts => ⌜I s ts⌝⦄ := by
    induction fuel generalizing state with
    | zero => mvcgen [loopWithin]
    | succ fuel ih => mvcgen [loopWithin, keeps, ih]
  mvcgen [loop, within]

theorem repeatWhile_spec {step : Reader Bool}
    (keeps : ⦃fun ts => ⌜AreNamed ts⌝⦄ step ⦃⇓? _ ts => ⌜AreNamed ts⌝⦄) :
    ⦃fun ts => ⌜AreNamed ts⌝⦄ repeatWhile step ⦃⇓? _ ts => ⌜AreNamed ts⌝⦄ := by
  apply loop_spec fun _ => AreNamed
  intro _
  mvcgen [keeps]

theorem separated_spec (separator : String) (item : Reader α) (P : α → Prop)
    (each : ⦃fun ts => ⌜AreNamed ts⌝⦄ item ⦃⇓? a ts => ⌜P a ∧ AreNamed ts⌝⦄) :
    ⦃fun ts => ⌜AreNamed ts⌝⦄ separated separator item
      ⦃⇓? items ts => ⌜(∀ a ∈ items, P a) ∧ AreNamed ts⌝⦄ := by
  have loops := loop_spec fun (items : List α) ts => (∀ a ∈ items, P a) ∧ AreNamed ts
  mvcgen [separated, loops, each] <;> simp_all +zetaDelta

end Reader

end Companion.Code

import Companion.Pattern.Match
import Companion.Proofs.Pattern.Constructs

/-! Patterns between the ends of a text.

A pattern is put into a group between the signs for the ends. It is read there as it is read alone,
but for two kinds of patterns: one that ends in a comment takes the end of the group into it, and
one that closes the group itself may be read there only. -/

set_option autoImplicit false

namespace Companion.Pattern

/-- Whether a text is a regular expression, however large. -/
def isWellFormed (p : String) : Bool := ((Ast.read? p).bind (Node.ofAst? .standard)).isSome

/-- The limits on how deeply a pattern nests and on the size of what it means. -/
def isWithinLimits (p : String) : Bool :=
  (Ast.read? p).all fun ast =>
    ast.depth ≤ nestLimit && (Node.ofAst? .standard ast).all (·.1.isSmall)

/-- The end of the group and of the text is not read, for it stands in a comment. -/
def CommentsOutEnd (p : String) : Prop :=
  EndsInComment p.toList ∧ Ast.read? (p ++ ")$") = Ast.read? p

/-- A pattern comes first, and then a parenthesis that it does not open. -/
def ClosesGroup (p : String) : Prop := ∃ a b, p = a ++ ")" ++ b ∧ (Ast.read? a).isSome

theorem isWellFormed_iff {p : String} :
    isWellFormed p = true ↔
      ∃ ast, Ast.read? p = some ast ∧ (Node.ofAst? .standard ast).isSome := by
  rw [isWellFormed, Option.isSome_bind, Option.any_eq_true]

theorem isValid_iff {p : String} : isValid p = true ↔ isWellFormed p ∧ isWithinLimits p := by
  unfold isValid Node.parse? Ast.parse? isWellFormed isWithinLimits
  cases Ast.read? p with
  | none => simp
  | some ast =>
    by_cases deep : ast.depth ≤ nestLimit
    · cases means : Node.ofAst? .standard ast with
      | none => simp [Option.filter, deep, means]
      | some r => cases small : r.1.isSmall <;> simp [Option.filter, deep, means, small]
    · simp [Option.filter, deep]

namespace Parser

theorem before_nil (s : ParserState) : s.before [] = s := by simp [ParserState.before]

/-- Fuel beyond the length of the text makes no difference. -/
theorem alternatives_run_eq {k k' : Nat} {s : ParserState} (enough : s.rest.length < k)
    (enough' : s.rest.length < k') (branches parts : List Ast) :
    (alternatives k branches parts).run s = (alternatives k' branches parts).run s := by
  have same := alternatives_localAt (.inl rfl) enough enough' branches parts
  apply Option.ext
  rintro ⟨ast, s₁⟩
  constructor
  · intro read
    obtain read' | ⟨-, -, read'⟩ := same.extend (List.not_mem_nil) read
    · rwa [before_nil, before_nil] at read'
    · rwa [before_nil] at read'
  · intro read
    obtain ⟨s₂, bare, rfl⟩ := same.truncate ((before_nil s).symm ▸ read) (Nat.zero_le _)
    rwa [before_nil]

/-- The state in which the reading of a text begins. -/
def start (cs : List Char) : ParserState := ⟨cs, false, [], 0⟩

theorem read?_eq_some_iff {p : String} {ast : Ast} {k : Nat} (enough : p.toList.length < k) :
    Ast.read? p = some ast ↔
      ∃ s, (alternatives k [] []).run (start p.toList) = some (ast, s) ∧ s.rest = [] := by
  have same := alternatives_run_eq (s := start p.toList) (Nat.lt_succ_self _) enough [] []
  rw [← same]
  unfold Ast.read?
  dsimp only [start]
  cases (alternatives (p.toList.length + 1) [] []).run ⟨p.toList, false, [], 0⟩ with
  | none => simp
  | some r =>
    obtain ⟨ast', s⟩ := r
    simp [and_comm]

/-! ### The group around a pattern -/

theorem enclosed_run (inner : Parser Ast) {s : ParserState} (counts : s.ignoreBlanks = false) :
    (enclosed [] inner).run s = (inner.run s).bind fun r => match r.2.rest with
      | ')' :: rest => some (r.1, { r.2 with rest, ignoreBlanks := false })
      | _ => none := by
  have closing (ast : Ast) (s₁ : ParserState) : (do
      guard ((← char) = ')')
      bump
      modify fun s => { s with ignoreBlanks := false }
      return ast : Parser Ast).run s₁ = match s₁.rest with
        | ')' :: rest => some (ast, { s₁ with rest, ignoreBlanks := false })
        | _ => none := by
    obtain ⟨_ | ⟨c, rest⟩, _, names, captures⟩ := s₁
    · rfl
    · by_cases same : c = ')'
      · subst same
        rfl
      · have failed : (guard (c = ')') : Parser Unit) = failure := if_neg same
        have other : (match c :: rest with
          | ')' :: rest => some (ast, (⟨rest, false, names, captures⟩ : ParserState))
          | _ => none) = none := by simp [same]
        rw [other]
        change (guard (c = ')') >>= fun _ => _ : Parser Ast).run _ = none
        rw [failed]
        rfl
  obtain ⟨rest, _, names, captures⟩ := s
  cases counts
  exact Option.bind_congr fun r _ => closing r.1 r.2

theorem anchored_run (k : Nat) (cs : List Char) :
    (alternatives (k + 2) [] []).run (start ('^' :: '(' :: '?' :: ':' :: cs)) =
      ((alternatives k [] []).run (start cs)).bind fun r => match r.2.rest with
        | ')' :: rest => (alternatives k [] [.group [] r.1, .assertion .lineStart]).run
            { r.2 with rest, ignoreBlanks := false }
        | _ => none := by
  have opened : (alternatives (k + 2) [] []).run (start ('^' :: '(' :: '?' :: ':' :: cs)) =
      ((do return [.group [] (← enclosed [] (alternatives k [] [])), .assertion .lineStart]
        : Parser (List Ast)).run (start cs)).bind fun r => (alternatives k [] r.1).run r.2 := rfl
  rw [opened, StateT.run_bind, enclosed_run _ rfl]
  cases (alternatives k [] []).run (start cs) with
  | none => rfl
  | some r =>
    simp only [Option.bind_some]
    split <;> rfl

/-- The signs that close the group and stand for the end of the text. -/
def ending : List Char := [')', '$']

/-- What is read of a pattern in its group. -/
def inGroup (p : String) : Option (Ast × ParserState) :=
  (alternatives (p.toList.length + 5) [] []).run ((start p.toList).before ending)

theorem anchored_toList (p : String) :
    (anchored p).toList = '^' :: '(' :: '?' :: ':' :: (p.toList ++ ending) := by
  simp [anchored, ending]

/-- An anchored pattern is read if the group is closed, and from its closing parenthesis on. -/
theorem read?_anchored_iff {p : String} {e : Ast} :
    Ast.read? (anchored p) = some e ↔
      ∃ ast s rest, inGroup p = some (ast, s) ∧ s.rest = ')' :: rest ∧
        ∃ s', (alternatives (p.toList.length + 5) [] [.group [] ast, .assertion .lineStart]).run
          { s with rest, ignoreBlanks := false } = some (e, s') ∧ s'.rest = [] := by
  have enough : (anchored p).toList.length < p.toList.length + 7 := by
    rw [anchored_toList]
    simp [ending]
  rw [read?_eq_some_iff enough, anchored_toList, anchored_run]
  change (∃ s', Option.bind (inGroup p) _ = _ ∧ _) ↔ _
  cases inGroup p with
  | none => simp
  | some r =>
    obtain ⟨ast, s⟩ := r
    rw [Option.bind_some]
    constructor
    · rintro ⟨s', read, atEnd⟩
      split at read
      next rest left => exact ⟨ast, s, rest, rfl, left, s', read, atEnd⟩
      next => cases read
    · rintro ⟨_, _, rest, same, left, s', read, atEnd⟩
      cases same
      refine ⟨s', ?_, atEnd⟩
      rw [left]
      exact read

def anchoredAst (ast : Ast) : Ast :=
  .concat [.assertion .lineStart, .group [] ast, .assertion .lineEnd]

theorem alternatives_end (k : Nat) (ast : Ast) (names : List String) (captures : Nat) :
    (alternatives (k + 2) [] [.group [] ast, .assertion .lineStart]).run
      ⟨['$'], false, names, captures⟩ =
      some (anchoredAst ast, ⟨[], false, names, captures⟩) := rfl

theorem read?_anchored {p : String} {ast : Ast} {s : ParserState}
    (read : inGroup p = some (ast, s)) (left : s.rest = ending) :
    Ast.read? (anchored p) = some (anchoredAst ast) :=
  read?_anchored_iff.2 ⟨ast, s, ['$'], read, left, _, alternatives_end _ ast _ _, rfl⟩

theorem of_read?_anchored {p : String} {e : Ast} (read : Ast.read? (anchored p) = some e) :
    ∃ ast s rest, inGroup p = some (ast, s) ∧ s.rest = ')' :: rest ∧
      (rest = ['$'] → e = anchoredAst ast) := by
  obtain ⟨ast, s, rest, inside, left, s', read, -⟩ := read?_anchored_iff.1 read
  refine ⟨ast, s, rest, inside, left, fun same => ?_⟩
  subst same
  rw [alternatives_end] at read
  cases read
  rfl

theorem read?_append_ending {p : String} {e : Ast} :
    Ast.read? (p ++ ")$") = some e ↔ ∃ s, inGroup p = some (e, s) ∧ s.rest = [] := by
  have written : (p ++ ")$").toList = p.toList ++ ending := by simp [ending]
  have enough : (p ++ ")$").toList.length < p.toList.length + 5 := by simp [written, ending]
  rw [read?_eq_some_iff enough, written]
  rfl

/-- A pattern is read up to the end of its group, unless the end stands in a comment. -/
theorem inGroup_of_read? {p : String} {ast : Ast} (read : Ast.read? p = some ast) :
    ∃ s, inGroup p = some (ast, s) ∧
      (s.rest = ending ∨ (s.rest = [] ∧ EndsInComment p.toList)) := by
  obtain ⟨s, read, atEnd⟩ := (read?_eq_some_iff (Nat.lt_succ_self _)).1 read
  have enough : (start p.toList).rest.length < p.toList.length + 5 := by simp [start]
  have same := alternatives_localAt (t := ending) (.inr rfl) (Nat.lt_succ_self _) enough [] []
  obtain inside | ⟨-, ends, inside⟩ := same.extend (by simp [ending]) read
  · exact ⟨s.before ending, inside, .inl (by simp [atEnd])⟩
  · exact ⟨s, inside, .inr ⟨atEnd, ends⟩⟩

/-- What is read in the group up to a parenthesis is a pattern up to there. -/
theorem read?_of_inGroup {p a : String} {ast : Ast} {s : ParserState}
    (read : inGroup p = some (ast, s)) (border : Border s.rest)
    (split : p.toList ++ ending = a.toList ++ s.rest) : Ast.read? a = some ast := by
  have lengths := congrArg List.length split
  have positive : 0 < s.rest.length := by
    obtain ⟨others, left⟩ := border.eq_cons
    simp [left]
  have enough : (start a.toList).rest.length < p.toList.length + 5 := by
    simp [start, ending] at lengths ⊢
    omega
  have same := alternatives_localAt (.inr border) (Nat.lt_succ_self _) enough [] []
  have text : (start p.toList).before ending = (start a.toList).before s.rest := by
    simp [start, ParserState.before, split]
  rw [inGroup, text] at read
  obtain ⟨s₁, bare, here⟩ := same.truncate read le_rfl
  have atEnd : s₁.rest = [] := by
    have left := congrArg ParserState.rest here
    simpa using left
  exact (read?_eq_some_iff (Nat.lt_succ_self _)).2 ⟨s₁, bare, atEnd⟩

theorem ofAst?_anchoredAst (ast : Ast) :
    (Node.ofAst? .standard (anchoredAst ast)).isSome = (Node.ofAst? .standard ast).isSome := by
  cases means : Node.ofAst? .standard ast <;>
    simp [anchoredAst, Node.ofAst?, Node.ofAsts?, Settings.update, means]

end Parser

open Companion.Pattern.Parser

variable {p : String}

/-- A pattern is one between the ends of a text too, unless a comment takes the end of the group. -/
theorem isWellFormed_anchored_iff (well : isWellFormed p = true) :
    isWellFormed (anchored p) = true ↔ ¬CommentsOutEnd p := by
  obtain ⟨ast, read, means⟩ := isWellFormed_iff.1 well
  obtain ⟨s, inside, left | ⟨atEnd, ends⟩⟩ := inGroup_of_read? read
  · refine iff_of_true ?_ ?_
    · rw [← ofAst?_anchoredAst] at means
      exact isWellFormed_iff.2 ⟨anchoredAst ast, read?_anchored inside left, means⟩
    · rintro ⟨-, same⟩
      obtain ⟨s', inside', atEnd⟩ := read?_append_ending.1 (same.trans read)
      cases inside.symm.trans inside'
      cases left.symm.trans atEnd
  · refine iff_of_false ?_ (not_not_intro ⟨ends, ?_⟩)
    · intro well'
      obtain ⟨e, read', -⟩ := isWellFormed_iff.1 well'
      obtain ⟨_, _, rest, inside', left, -⟩ := of_read?_anchored read'
      cases inside.symm.trans inside'
      cases atEnd.symm.trans left
    · rw [read]
      exact read?_append_ending.2 ⟨s, inside, atEnd⟩

example : isWellFormed "(?x)a # b" = true ∧ isWellFormed (anchored "(?x)a # b") = false := by
  decide +kernel

/-- What is no pattern alone is one between the ends of a text only if it closes the group. -/
theorem closesGroup_of_anchored (ill : isWellFormed p = false)
    (well : isWellFormed (anchored p) = true) : ClosesGroup p := by
  obtain ⟨e, read, means⟩ := isWellFormed_iff.1 well
  obtain ⟨ast, s, rest, inside, left, whole⟩ := of_read?_anchored read
  have border : Border s.rest := by rw [left]; rfl
  obtain ⟨before, split⟩ : s.rest <:+ p.toList ++ ending := Shrinks.suffix inside
  -- The group is closed by its own parenthesis or by one in the pattern.
  by_cases own : s.rest = ending
  · rw [own] at split
    have read' : Ast.read? p = some ast := read?_of_inGroup inside border (by rw [own])
    cases own.symm.trans left
    rw [whole rfl, ofAst?_anchoredAst] at means
    rw [isWellFormed_iff.2 ⟨ast, read', means⟩] at ill
    cases ill
  · obtain ⟨own', pattern, left'⟩ | ⟨own', -, left'⟩ := List.append_eq_append_iff.1 split
    · obtain _ | ⟨c, after⟩ := own'
      · exact absurd left' own
      · cases left.symm.trans left'
        refine ⟨String.ofList before, String.ofList after, ?_, ?_⟩
        · exact String.toList_inj.1 (by simp [pattern])
        · have read' : Ast.read? (String.ofList before) = some ast :=
            read?_of_inGroup inside border (by rw [String.toList_ofList, split])
          rw [read']
          rfl
    · -- Of the ending only the whole begins with a parenthesis.
      rw [left, ending] at left'
      obtain _ | ⟨c, _ | ⟨d, after⟩⟩ := own' <;> simp_all [ending]

end Companion.Pattern

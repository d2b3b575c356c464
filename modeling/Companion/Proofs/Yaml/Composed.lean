import Companion.Proofs.Yaml.Written
import Companion.Yaml.Node

/-! The nodes of what is written. -/

set_option autoImplicit false

namespace Companion.Yaml

variable {t : Token} {ts rest : List Token} {tss : List (List Token)} {n : Node} {ns : List Node}
  {s : Composer}

/-- The same composer before other tokens. -/
def Composer.before (s : Composer) (tokens : List Token) : Composer := { s with tokens }

namespace Compose

@[simp] theorem run_peek (s : Composer) (t : Token) (rest : List Token) :
    peek.run (s.before (t :: rest)) = some (t, s.before (t :: rest)) := rfl

@[simp] theorem run_drop (s : Composer) (t : Token) (rest : List Token) :
    drop.run (s.before (t :: rest)) = some ((), s.before rest) := rfl

@[simp] theorem run_accept (s : Composer) (t expected : Token) (rest : List Token) :
    (accept expected).run (s.before (t :: rest)) =
      some (if t = expected then (true, s.before rest) else (false, s.before (t :: rest))) := by
  by_cases same : t = expected <;> simp [accept, same]

end Compose

open Compose

/-- A token that starts a node. -/
def StartsNode (t : Token) : Prop :=
  t = .flowSequenceStart ∨ t = .flowMappingStart ∨ ∃ style text, t = .scalar style text

/-- Tokens are those of a node, whatever follows them. -/
structure Composes (ts : List Token) (n : Node) : Prop where
  starts : ∃ t more, ts = t :: more ∧ StartsNode t
  node (s : Composer) (rest : List Token) (fuel : Nat) (block unindented : Bool) :
    4 * ts.length ≤ fuel →
    (Compose.node block unindented fuel).run (s.before (ts ++ rest)) = some (n, s.before rest)

theorem StartsNode.ne (starts : StartsNode t) : t ≠ .flowSequenceEnd ∧ t ≠ .flowMappingEnd ∧
    t ≠ .flowEntry ∧ t ≠ .key ∧ t ≠ .value := by
  rcases starts with rfl | rfl | ⟨style, text, rfl⟩ <;> exact ⟨nofun, nofun, nofun, nofun, nofun⟩

theorem composes_scalar (style : Style) (text : String) :
    Composes [.scalar style text] (.scalar none style text) := by
  refine ⟨⟨_, _, rfl, .inr (.inr ⟨_, _, rfl⟩)⟩, fun s rest fuel block unindented enough => ?_⟩
  obtain ⟨fuel, rfl⟩ := Nat.exists_eq_succ_of_ne_zero (Nat.ne_zero_of_lt enough)
  simp [Compose.node, properties, keep]

/-! ### Sequences -/

/-- Items are read up to the bracket. All but the first are expected behind a comma. -/
theorem run_flowItems {fuel : Nat} (composed : List.Forall₂ Composes tss ns) (first : Bool)
    (enough : 4 * (separated tss).length < fuel) :
    (flowItems first fuel).run (s.before
      ((if first then [] else [.flowEntry]) ++ (separated tss ++ .flowSequenceEnd :: rest))) =
      some (ns, s.before rest) := by
  obtain ⟨fuel, rfl⟩ := Nat.exists_eq_succ_of_ne_zero (Nat.ne_zero_of_lt enough)
  induction composed generalizing fuel first with
  | nil => cases first <;> simp [flowItems, expect, separated, guard]
  | @cons ts n tss ns composes others ih =>
    obtain ⟨t, more, whole, starts⟩ := composes.starts
    obtain ⟨noEnd, -, -, noKey, -⟩ := starts.ne
    have size : (separated (ts :: tss)).length = ts.length + 1 + (separated tss).length := by
      simp [separated]
      omega
    have item := composes.node s (.flowEntry :: (separated tss ++ .flowSequenceEnd :: rest))
      fuel false false (by omega)
    have following : (flowItems false fuel).run (s.before
        (.flowEntry :: (separated tss ++ .flowSequenceEnd :: rest))) = some (ns, s.before rest) := by
      obtain ⟨less, same⟩ := Nat.exists_eq_succ_of_ne_zero (show fuel ≠ 0 by omega)
      rw [same]
      exact ih false less (by omega)
    have tokens : separated (ts :: tss) ++ .flowSequenceEnd :: rest =
        t :: (more ++ .flowEntry :: (separated tss ++ .flowSequenceEnd :: rest)) := by
      simp [separated, whole]
    rw [whole, List.cons_append] at item
    rw [tokens]
    cases first <;> simp [flowItems, expect, guard, noEnd, noKey, item, following]

theorem composes_sequence (composed : List.Forall₂ Composes tss ns) :
    Composes (.flowSequenceStart :: (separated tss ++ [.flowSequenceEnd])) (.sequence none ns) := by
  refine ⟨⟨_, _, rfl, .inl rfl⟩, fun s rest fuel block unindented enough => ?_⟩
  obtain ⟨fuel, rfl⟩ := Nat.exists_eq_succ_of_ne_zero (Nat.ne_zero_of_lt enough)
  have items : (flowItems true fuel).run
      (s.before (separated tss ++ .flowSequenceEnd :: rest)) = some (ns, s.before rest) := by
    refine run_flowItems composed true ?_
    simp only [List.length_cons, List.length_append] at enough
    omega
  simp [Compose.node, properties, keep, items]

/-! ### Mappings -/

variable {keys : List String}

/-- The tokens of a key with its mark and of its value. -/
def entryTokens (key : String) (ts : List Token) : List Token :=
  .key :: .scalar .doubleQuoted key :: .value :: ts

theorem run_nodeUnless (s : Composer) (rest ends : List Token) {fuel : Nat}
    (composes : Composes ts n)
    (other : ∀ t, StartsNode t → t ∉ ends) (enough : 4 * ts.length < fuel) :
    (nodeUnless ends false false fuel).run (s.before (ts ++ rest)) = some (n, s.before rest) := by
  obtain ⟨fuel, rfl⟩ := Nat.exists_eq_succ_of_ne_zero (Nat.ne_zero_of_lt enough)
  obtain ⟨t, more, whole, starts⟩ := composes.starts
  have item := composes.node s rest fuel false false (Nat.le_of_lt_succ enough)
  rw [whole, List.cons_append] at item ⊢
  simp [nodeUnless, other t starts, item]

theorem StartsNode.not_mem (starts : StartsNode t) {ends : List Token}
    (known : ends ⊆ [.value, .flowEntry, .flowMappingEnd]) : t ∉ ends := by
  obtain ⟨-, noEnd, noEntry, -, noValue⟩ := starts.ne
  intro member
  simpa [noEnd, noEntry, noValue] using known member

theorem run_flowValue (s : Composer) (rest : List Token) {fuel : Nat} (composes : Composes ts n)
    (enough : 4 * ts.length + 1 < fuel) :
    (flowValue fuel).run (s.before (.value :: (ts ++ rest))) = some (n, s.before rest) := by
  obtain ⟨fuel, rfl⟩ := Nat.exists_eq_succ_of_ne_zero (Nat.ne_zero_of_lt enough)
  have value := run_nodeUnless s rest [.flowEntry, .flowMappingEnd] composes
    (fun t starts => starts.not_mem (by decide)) (Nat.lt_of_succ_lt_succ enough)
  simp [flowValue, value]

/-- The tokens of entries with commas behind them. -/
def separatedEntries (entries : List (String × List Token)) : List Token :=
  separated (entries.map fun entry => entryTokens entry.1 entry.2)

/-- A key in double quotes, and a value that tokens are those of. -/
def EntryComposes (entry : String × List Token) (node : Node × Node) : Prop :=
  node.1 = .scalar none .doubleQuoted entry.1 ∧ Composes entry.2 node.2

variable {entries : List (String × List Token)} {nodes : List (Node × Node)}

/-- Entries are read up to the bracket. All but the first are expected behind a comma. -/
theorem run_flowEntries {fuel : Nat} (composed : List.Forall₂ EntryComposes entries nodes)
    (first : Bool) (enough : 4 * (separatedEntries entries).length < fuel) :
    (flowEntries first fuel).run (s.before ((if first then [] else [.flowEntry]) ++
      (separatedEntries entries ++ .flowMappingEnd :: rest))) = some (nodes, s.before rest) := by
  obtain ⟨fuel, rfl⟩ := Nat.exists_eq_succ_of_ne_zero (Nat.ne_zero_of_lt enough)
  induction composed generalizing fuel first with
  | nil => cases first <;> simp [flowEntries, expect, separatedEntries, separated, guard]
  | @cons entry node entries nodes known others ih =>
    obtain ⟨key, value⟩ := node
    obtain ⟨rfl, composes⟩ := known
    have size : (separatedEntries (entry :: entries)).length =
        entry.2.length + 4 + (separatedEntries entries).length := by
      simp [separatedEntries, separated, entryTokens]
      omega
    have tokens : separatedEntries (entry :: entries) ++ .flowMappingEnd :: rest =
        .key :: .scalar .doubleQuoted entry.1 :: .value ::
          (entry.2 ++ .flowEntry :: (separatedEntries entries ++ .flowMappingEnd :: rest)) := by
      simp [separatedEntries, separated, entryTokens]
    have key := run_nodeUnless s
      (.value :: (entry.2 ++ .flowEntry :: (separatedEntries entries ++ .flowMappingEnd :: rest)))
      [.value, .flowEntry, .flowMappingEnd] (composes_scalar .doubleQuoted entry.1)
      (fun t starts => starts.not_mem (List.Subset.refl _)) (show _ < fuel by simp; omega)
    have value := run_flowValue s
      (.flowEntry :: (separatedEntries entries ++ .flowMappingEnd :: rest)) composes
      (show _ < fuel by omega)
    have following : (flowEntries false fuel).run (s.before
        (.flowEntry :: (separatedEntries entries ++ .flowMappingEnd :: rest))) =
        some (nodes, s.before rest) := by
      obtain ⟨less, same⟩ := Nat.exists_eq_succ_of_ne_zero (show fuel ≠ 0 by omega)
      rw [same]
      exact ih false less (by omega)
    rw [List.singleton_append] at key
    rw [tokens]
    cases first <;> simp [flowEntries, expect, guard, key, value, following]

theorem composes_mapping (composed : List.Forall₂ EntryComposes entries nodes) :
    Composes (.flowMappingStart :: (separatedEntries entries ++ [.flowMappingEnd]))
      (.mapping none nodes) := by
  refine ⟨⟨_, _, rfl, .inr (.inl rfl)⟩, fun s rest fuel block unindented enough => ?_⟩
  obtain ⟨fuel, rfl⟩ := Nat.exists_eq_succ_of_ne_zero (Nat.ne_zero_of_lt enough)
  have found : (flowEntries true fuel).run
      (s.before (separatedEntries entries ++ .flowMappingEnd :: rest)) =
      some (nodes, s.before rest) := by
    refine run_flowEntries composed true ?_
    simp only [List.length_cons, List.length_append] at enough
    omega
  simp [Compose.node, properties, keep, found]

/-! ### Documents -/

theorem run_stream (s : Composer) {fuel : Nat} (composes : Composes ts n)
    (enough : 4 * ts.length ≤ fuel) :
    (stream fuel).run (s.before (ts ++ [.streamEnd])) = some (some n, s.before [.streamEnd]) := by
  obtain ⟨t, more, whole, starts⟩ := composes.starts
  have first : t ≠ .streamEnd ∧ t ≠ .documentStart ∧ isDirective t = false := by
    rcases starts with rfl | rfl | ⟨style, text, rfl⟩ <;> exact ⟨nofun, nofun, rfl⟩
  have item := composes.node s [.streamEnd] fuel true false enough
  obtain ⟨fuel, rfl⟩ := Nat.exists_eq_succ_of_ne_zero (show fuel ≠ 0 by
    rw [whole, List.length_cons] at enough
    omega)
  rw [whole, List.cons_append] at item ⊢
  simp [stream, document, documentEnds, first, item, guard]

end Companion.Yaml

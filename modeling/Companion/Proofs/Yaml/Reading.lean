import Companion.Proofs.Yaml.Composed

/-! What is written is read as it was meant. -/

set_option autoImplicit false

namespace Companion.Yaml

/-- A text that is read as a node inside of brackets. -/
structure Writes (text : String) (n : Node) : Prop where
  allowed : ∀ c ∈ text.toList, isAllowed c = true
  tokens : ∃ ts, Spells text ts ∧ Composes ts n

/-! ### Allowed characters -/

theorem allowed_hexDigits (count n : Nat) : ∀ c ∈ hexDigits count n, isAllowed c = true := by
  have digit : ∀ m < 16, isAllowed (Json.hexDigit m) = true := by decide
  induction count generalizing n with
  | zero => exact nofun
  | succ count ih =>
    rw [hexDigits]
    refine List.forall_mem_append.mpr ⟨ih _, List.forall_mem_singleton.mpr ?_⟩
    exact digit _ (Nat.mod_lt n (by decide))

theorem allowed_quoteChar (x : Char) : ∀ c ∈ quoteChar x, isAllowed c = true := by
  unfold quoteChar
  split
  · next mark => rcases mark with rfl | rfl <;> exact Chars.forall_mem_of_all (by decide)
  · split
    · next visible =>
      refine List.forall_mem_singleton.mpr ?_
      have low : 0x20 ≤ x.toNat := visible.1
      have high : x.toNat ≤ 0x7E := visible.2
      simp [isAllowed, low, high]
    · exact List.forall_mem_cons.mpr ⟨rfl, List.forall_mem_cons.mpr ⟨rfl, allowed_hexDigits 8 _⟩⟩

theorem allowed_quote (text : String) : ∀ c ∈ (quote text).toList, isAllowed c = true := by
  intro c member
  rw [quote, String.toList_ofList, List.cons_append, List.mem_cons, List.mem_append,
    List.mem_singleton] at member
  rcases member with rfl | inside | rfl
  · rfl
  · obtain ⟨x, -, inside⟩ := List.mem_flatMap.mp inside
    exact allowed_quoteChar x c inside
  · rfl

theorem allowed_newLine (depth : Nat) : ∀ c ∈ (newLine depth).toList, isAllowed c = true := by
  intro c member
  rw [newLine, String.toList_ofList, List.mem_cons] at member
  rcases member with rfl | inside
  · rfl
  · rw [List.eq_of_mem_replicate inside]
    rfl

theorem allowed_bracketed {opening closing : String} {depth : Nat} {parts : List String}
    (ends : ∀ c ∈ opening.toList ++ closing.toList, isAllowed c = true)
    (inside : ∀ part ∈ parts, ∀ c ∈ part.toList, isAllowed c = true) :
    ∀ c ∈ (bracketed opening closing depth parts).toList, isAllowed c = true := by
  intro c member
  simp only [bracketed, String.toList_append, String.toList_join, List.mem_append,
    List.mem_flatMap, List.mem_map] at member ends
  rcases member with ((opens | ⟨_, ⟨part, listed, rfl⟩, row⟩) | line) | closes
  · exact ends c (.inl opens)
  · simp only [String.toList_append, List.mem_append] at row
    rcases row with (line | text) | comma
    · exact allowed_newLine _ c line
    · exact inside part listed c text
    · rw [List.mem_singleton.mp comma]
      rfl
  · exact allowed_newLine _ c line
  · exact ends c (.inr closes)

/-! ### Values -/

theorem writes_quote (text : String) : Writes (quote text) (.scalar none .doubleQuoted text) :=
  ⟨allowed_quote text, _, spells_quote text, composes_scalar ..⟩

theorem writes_integer (n : Int) : Writes (toString n) (.scalar none .plain (toString n)) := by
  refine ⟨fun c member => ?_, _, spells_integer n, composes_scalar ..⟩
  have known : ∀ c ∈ '-' :: Code.Lexer.digits, isAllowed c = true :=
    Chars.forall_mem_of_all (by decide)
  exact known c ((Lexer.isSigned_toString n).subset member)

/-- Of texts that are read as nodes, the tokens. -/
theorem exists_tokens {texts : List String} {ns : List Node} (written : List.Forall₂ Writes texts ns) :
    (∀ text ∈ texts, ∀ c ∈ text.toList, isAllowed c = true) ∧
      ∃ tss, List.Forall₂ Spells texts tss ∧ List.Forall₂ Composes tss ns := by
  induction written with
  | nil => exact ⟨nofun, [], .nil, .nil⟩
  | cons here _ ih =>
    obtain ⟨allowed, ts, spells, composes⟩ := here
    obtain ⟨others, tss, spelled, composed⟩ := ih
    exact ⟨List.forall_mem_cons.mpr ⟨allowed, others⟩, ts :: tss, .cons spells spelled,
      .cons composes composed⟩

theorem writes_list {texts : List String} {ns : List Node} (depth : Nat)
    (written : List.Forall₂ Writes texts ns) : Writes (list depth texts) (.sequence none ns) := by
  obtain ⟨allowed, tss, spelled, composed⟩ := exists_tokens written
  refine ⟨allowed_bracketed (Chars.forall_mem_of_all (by decide)) allowed, _, ?_, composes_sequence composed⟩
  intro l lines blanks cs before depth idle here
  exact leads_bracketed ⟨'[', rfl, .inl ⟨rfl, rfl⟩⟩ ⟨']', rfl, .inl ⟨rfl, rfl⟩⟩ spelled idle here

/-- An entry that is read as a key in double quotes and a value. -/
def EntryWrites (entry : String × String) (node : Node × Node) : Prop :=
  node.1 = .scalar none .doubleQuoted entry.1 ∧ Writes entry.2 node.2

/-- Of entries that are read as keys and values, the tokens. -/
theorem exists_entryTokens {entries : List (String × String)} {nodes : List (Node × Node)}
    (written : List.Forall₂ EntryWrites entries nodes) :
    (∀ entry ∈ entries, ∀ c ∈ entry.2.toList, isAllowed c = true) ∧
      ∃ named : List (String × List Token), List.Forall₂ EntryComposes named nodes ∧
        List.Forall₂ Spells (entries.map fun entry => "? " ++ quote entry.1 ++ " : " ++ entry.2)
          (named.map fun entry => entryTokens entry.1 entry.2) := by
  induction written with
  | nil => exact ⟨nofun, [], .nil, .nil⟩
  | @cons entry node entries nodes here _ ih =>
    obtain ⟨key, allowed, ts, spells, composes⟩ := here
    obtain ⟨others, named, composed, spelled⟩ := ih
    exact ⟨List.forall_mem_cons.mpr ⟨allowed, others⟩, (entry.1, ts) :: named,
      .cons ⟨key, composes⟩ composed, .cons (spells_entry entry.1 spells) spelled⟩

theorem allowed_row {entry : String × String}
    (allowed : ∀ c ∈ entry.2.toList, isAllowed c = true) :
    ∀ c ∈ ("? " ++ quote entry.1 ++ " : " ++ entry.2).toList, isAllowed c = true := by
  intro c member
  simp only [String.toList_append, List.mem_append] at member
  have marks : ∀ c ∈ "? ".toList ++ " : ".toList, isAllowed c = true :=
    Chars.forall_mem_of_all (by decide)
  rcases member with ((mark | key) | colon) | value
  · exact marks c (List.mem_append_left _ mark)
  · exact allowed_quote entry.1 c key
  · exact marks c (List.mem_append_right _ colon)
  · exact allowed c value

theorem allowed_mapping {entries : List (String × String)} (depth : Nat)
    (inside : ∀ entry ∈ entries, ∀ c ∈ entry.2.toList, isAllowed c = true) :
    ∀ c ∈ (mapping depth entries).toList, isAllowed c = true := by
  refine allowed_bracketed (Chars.forall_mem_of_all (by decide)) fun part member => ?_
  obtain ⟨entry, listed, rfl⟩ := List.mem_map.mp member
  exact allowed_row (inside entry listed)

theorem writes_mapping {entries : List (String × String)} {nodes : List (Node × Node)} (depth : Nat)
    (written : List.Forall₂ EntryWrites entries nodes) :
    Writes (mapping depth entries) (.mapping none nodes) := by
  obtain ⟨allowed, named, composed, spelled⟩ := exists_entryTokens written
  refine ⟨allowed_mapping depth allowed, _, ?_, composes_mapping composed⟩
  intro l lines blanks cs before level idle here
  exact leads_bracketed ⟨'\x7b', rfl, .inr ⟨rfl, rfl⟩⟩ ⟨'\x7d', rfl, .inr ⟨rfl, rfl⟩⟩ spelled idle
    here

/-! ### Documents -/

open Lexer in
/-- The tokens of a mapping that is all of a text but idle lines before it. -/
theorem tokens?_mapping {text : String} {lines : List (List Char)} {entries : List (String × String)}
    {tss : List (List Token)} (idle : ∀ line ∈ lines, IsIdle line)
    (whole : text.toList = spaces lines 0 ++ ((mapping 0 entries).toList ++ ['\n']))
    (allowed : ∀ c ∈ text.toList, isAllowed c = true)
    (spelled : List.Forall₂ Spells
      (entries.map fun entry => "? " ++ quote entry.1 ++ " : " ++ entry.2) tss) :
    (tokens? text).map Array.toList =
      some (.flowMappingStart :: (separated tss ++ [.flowMappingEnd, .streamEnd])) := by
  have start : (Lexer.start text.toList).Stands
      (spaces lines 0 ++ ((mapping 0 entries).toList ++ ['\n'])) [] 0 :=
    ⟨whole, rfl, rfl, by simp [Lexer.start], rfl, rfl⟩
  obtain ⟨next, ⟨count, size, ran⟩, stands⟩ := leads_bracketed ⟨'\x7b', rfl, .inr ⟨rfl, rfl⟩⟩
    ⟨'\x7d', rfl, .inr ⟨rfl, rfl⟩⟩ spelled idle start
  have rest : (Lexer.start text.toList).cursor.rest.length = text.toList.length := rfl
  have last : next.Stands (spaces [[]] 0) _ 0 := stands
  obtain ⟨fuel, enough⟩ : ∃ fuel, text.toList.length + 2 = fuel + 1 + count :=
    ⟨text.toList.length + 1 - count, by omega⟩
  have all : text.toList.all isAllowed = true := List.all_eq_true.mpr allowed
  have ended := last.run_end idle_newLine fuel
  have tokens : tokens? text = run (fuel + 1) next := by
    simp [tokens?, all, guard, enough, ran]
  rw [tokens, ended]
  simp

/-- A mapping that is all of a text but idle lines before it is its document. -/
theorem ofText?_mapping {text : String} {lines : List (List Char)}
    {entries : List (String × String)} {nodes : List (Node × Node)}
    (idle : ∀ line ∈ lines, IsIdle line) (plain : ∀ line ∈ lines, ∀ c ∈ line, isAllowed c = true)
    (whole : text.toList = spaces lines 0 ++ ((mapping 0 entries).toList ++ ['\n']))
    (written : List.Forall₂ EntryWrites entries nodes) :
    Document.ofText? text = some ⟨some (.mapping none nodes), []⟩ := by
  obtain ⟨inside, named, composed, spelled⟩ := exists_entryTokens written
  have allowed : ∀ c ∈ text.toList, isAllowed c = true := by
    intro c member
    simp only [whole, spaces, List.mem_append, List.mem_flatMap, List.replicate_zero,
      List.not_mem_nil, or_false, List.mem_singleton] at member
    rcases member with ⟨line, listed, first | rfl⟩ | mapping | rfl
    · exact plain line listed c first
    · rfl
    · exact allowed_mapping 0 inside c mapping
    · rfl
  have tokens := tokens?_mapping idle whole allowed spelled
  obtain ⟨found, known, list⟩ := Option.map_eq_some_iff.mp tokens
  have split : found.toList = .flowMappingStart ::
      (separatedEntries named ++ [.flowMappingEnd]) ++ [.streamEnd] := by
    rw [list, List.cons_append, List.append_assoc]
    rfl
  have ended := run_stream ⟨[], Compose.standardHandles, [], 0, []⟩ (composes_mapping composed)
    (show _ ≤ 4 * found.size + 8 by
      rw [← Array.length_toList, split, List.length_append]
      omega)
  rw [← split] at ended
  have started : (⟨[], Compose.standardHandles, [], 0, []⟩ : Composer).before found.toList =
      ⟨found.toList, Compose.standardHandles, [], 0, []⟩ := rfl
  rw [started] at ended
  simp [Document.ofText?, known, ended, Composer.before]

end Companion.Yaml

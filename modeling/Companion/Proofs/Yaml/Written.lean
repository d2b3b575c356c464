import Companion.Proofs.Yaml.Lexing
import Mathlib.Data.List.Forall2

/-! The tokens of what is written. -/

set_option autoImplicit false

namespace Companion.Yaml

open Lexer

variable {x y : Char} {t t' : Token} {ts : List Token} {tss : List (List Token)} {text : String}
  {parts : List String}

/-- A text adds tokens inside of brackets, up to the comma behind it. -/
def Spells (text : String) (ts : List Token) : Prop :=
  ∀ (l : Lexer) (lines : List (List Char)) (blanks : Nat) (cs : List Char) (before : List Token)
    (depth : Nat), (∀ line ∈ lines, IsIdle line) →
    l.Stands (spaces lines blanks ++ (text.toList ++ ',' :: cs)) before (depth + 1) →
    ∃ next, l.Leads next ∧ next.Stands (',' :: cs) (before ++ ts) (depth + 1)

theorem idle_newLine : ∀ line ∈ [([] : List Char)], IsIdle line :=
  fun _ member => .inl (List.mem_singleton.mp member)

/-! ### Scalars -/

theorem isSolid_quote : IsSolid '"' := ⟨rfl, rfl, by decide, by decide⟩

theorem spells_quote (text : String) : Spells (quote text) [.scalar .doubleQuoted text] := by
  intro l lines blanks cs before depth idle here
  have whole : (quote text).toList ++ ',' :: cs =
      '"' :: (text.toList.flatMap quoteChar ++ '"' :: ',' :: cs) := by
    simp [quote]
  rw [whole] at here
  refine here.leads idle isSolid_quote ?_ fun l' stands => ?_
  · simp
    omega
  · obtain ⟨next, token, ends, -⟩ := stands.quoted
    exact ⟨next, token, ends⟩

theorem isSolid_of_mem : ∀ x ∈ '-' :: Code.Lexer.digits, IsSolid x := by
  have known : ∀ x ∈ '-' :: Code.Lexer.digits, isBreak x = false ∧ isBlank x = false ∧ x ≠ '#' ∧
      x ≠ '\ufeff' := Chars.forall_mem_of_all (by decide)
  intro x member
  obtain ⟨noBreak, noBlank, noComment, noMark⟩ := known x member
  exact ⟨noBreak, noBlank, noComment, noMark⟩

theorem spells_integer (n : Int) : Spells (toString n) [.scalar .plain (toString n)] := by
  intro l lines blanks cs before depth idle here
  have signed := isSigned_toString n
  obtain ⟨x, word, known⟩ : ∃ x word, (toString n).toList = x :: word := by
    obtain ⟨d, ds, -, known | known⟩ := signed <;> exact ⟨_, _, known⟩
  rw [known] at signed
  rw [known, List.cons_append] at here
  rw [← String.ofList_toList (s := toString n), known]
  refine here.leads idle (isSolid_of_mem x (signed.subset (List.mem_cons_self ..))) ?_
    fun l' stands => stands.plain signed
  rw [List.length_append]
  omega

/-! ### Entries -/

theorem idle_none : ∀ line ∈ ([] : List (List Char)), IsIdle line := nofun

/-- A key behind its mark, the colon, and the value. -/
theorem spells_entry {value : String} (key : String) (spells : Spells value ts) :
    Spells ("? " ++ quote key ++ " : " ++ value)
      (.key :: .scalar .doubleQuoted key :: .value :: ts) := by
  intro l lines blanks cs before depth idle here
  have whole : ("? " ++ quote key ++ " : " ++ value).toList ++ ',' :: cs =
      '?' :: (spaces [] 1 ++ '"' :: (key.toList.flatMap quoteChar ++ '"' ::
        (spaces [] 1 ++ ':' :: (spaces [] 1 ++ (value.toList ++ ',' :: cs))))) := by
    simp [quote, spaces]
  rw [whole] at here
  -- No other key starts between the mark and the colon.
  obtain ⟨marked, leads, stands, bare⟩ := here.leads_to Bare idle ⟨rfl, rfl, by decide, by decide⟩
    (Nat.le_refl _) fun l' stands _ => stands.key
  have less (text cs : List Char) : cs.length ≤ (text ++ '"' :: cs).length := by
    rw [List.length_append, List.length_cons]
    omega
  obtain ⟨named, leads', stands, bare⟩ := stands.leads_to Bare idle_none isSolid_quote (less _ _)
    fun l' stands known => by
      obtain ⟨next, token, ends, kept⟩ := stands.quoted
      exact ⟨next, token, ends, kept (known (Nat.succ_pos _) bare)⟩
  obtain ⟨colon, leads'', stands, -⟩ := stands.leads_to (fun _ => True) idle_none
    ⟨rfl, rfl, by decide, by decide⟩ (Nat.le_refl _) fun l' stands known => by
      obtain ⟨next, token, ends⟩ := stands.value (known (Nat.succ_pos _) bare)
      exact ⟨next, token, ends, trivial⟩
  obtain ⟨next, last, stands⟩ := spells colon [] 1 cs _ depth idle_none stands
  refine ⟨next, leads.trans (leads'.trans (leads''.trans last)), ?_⟩
  simpa using stands

/-! ### Brackets -/

/-- Parts, each on a line of its own with a comma behind it. -/
def rows (depth : Nat) (parts : List String) : List Char :=
  parts.flatMap fun part => (newLine depth).toList ++ part.toList ++ [',']

theorem toList_newLine (depth : Nat) : (newLine depth).toList = spaces [[]] (2 * depth) := by
  simp [newLine, spaces]

/-- The tokens of parts with commas behind them. -/
def separated (tss : List (List Token)) : List Token := tss.flatMap (· ++ [.flowEntry])

theorem leads_rows {l : Lexer} {level depth : Nat} {cs : List Char} {before : List Token}
    (spelled : List.Forall₂ Spells parts tss)
    (here : l.Stands (rows level parts ++ cs) before (depth + 1)) :
    ∃ next, l.Leads next ∧ next.Stands cs (before ++ separated tss) (depth + 1) := by
  induction spelled generalizing l before with
  | nil => exact ⟨l, .refl l, by simpa [rows, separated] using here⟩
  | @cons part ts parts tss spells others ih =>
    have whole : rows level (part :: parts) ++ cs = spaces [[]] (2 * level) ++
        (part.toList ++ ',' :: (rows level parts ++ cs)) := by
      simp [rows, toList_newLine]
    rw [whole] at here
    obtain ⟨read, leads, stands⟩ := spells l _ _ _ _ _ idle_newLine here
    have comma : read.Stands (spaces [] 0 ++ ',' :: (rows level parts ++ cs)) (before ++ ts)
        (depth + 1) := stands
    obtain ⟨entry, leads', stands⟩ := comma.leads idle_none ⟨rfl, rfl, by decide, by decide⟩
      (Nat.le_refl _) fun l' stands => stands.flowEntry
    obtain ⟨next, last, stands⟩ := ih stands
    refine ⟨next, leads.trans (leads'.trans last), ?_⟩
    simpa [separated] using stands

/-- Brackets around parts, wherever they stand. -/
theorem leads_bracketed {l : Lexer} {lines : List (List Char)} {blanks level depth : Nat}
    {opening closing : String} {cs : List Char} {before : List Token}
    (opens : ∃ x, opening.toList = [x] ∧ IsOpening x t)
    (closes : ∃ y, closing.toList = [y] ∧ IsClosing y t') (spelled : List.Forall₂ Spells parts tss)
    (idle : ∀ line ∈ lines, IsIdle line)
    (here : l.Stands (spaces lines blanks ++
      ((bracketed opening closing level parts).toList ++ cs)) before depth) :
    ∃ next, l.Leads next ∧
      next.Stands cs (before ++ (t :: (separated tss ++ [t']))) depth := by
  obtain ⟨x, opening', opens⟩ := opens
  obtain ⟨y, closing', closes⟩ := closes
  have whole : (bracketed opening closing level parts).toList ++ cs =
      x :: (rows (level + 1) parts ++ (spaces [[]] (2 * level) ++ y :: cs)) := by
    simp [bracketed, rows, toList_newLine, opening', closing', String.toList_join,
      List.flatMap_map]
  rw [whole] at here
  have solid : IsSolid x ∧ IsSolid y := by
    constructor
    · rcases opens with ⟨rfl, -⟩ | ⟨rfl, -⟩ <;> exact ⟨rfl, rfl, by decide, by decide⟩
    · rcases closes with ⟨rfl, -⟩ | ⟨rfl, -⟩ <;> exact ⟨rfl, rfl, by decide, by decide⟩
  obtain ⟨opened, leads, stands⟩ := here.leads idle solid.1 (Nat.le_refl _) fun l' stands => by
    rw [opens.tokenAt stands.rest]
    exact stands.flowStart t
  obtain ⟨read, leads', stands⟩ := leads_rows spelled stands
  obtain ⟨next, last, stands⟩ := stands.leads idle_newLine solid.2 (Nat.le_refl _)
    fun l' stands => by
      rw [closes.tokenAt stands.rest]
      exact stands.flowEnd t'
  refine ⟨next, leads.trans (leads'.trans last), ?_⟩
  simpa using stands

end Companion.Yaml

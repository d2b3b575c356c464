import Companion.Proofs.Yaml.Reading
import Companion.Proofs.Text.Dictionary
import Companion.Yaml.Reader

/-! Values that are read from nodes without aliases. -/

set_option autoImplicit false

namespace Companion.Yaml

open Code.Lexer (digits)

variable {α β : Type}

/-- What is read in any document, and follows no alias. -/
def Reads (x : Read α) (a : α) : Prop := ∀ d budget, (x d).run budget = some (a, budget)

theorem reads_pure (a : α) : Reads (pure a) a := fun _ _ => rfl

theorem Reads.bind {x : Read α} {a : α} {f : α → Read β} {b : β} (first : Reads x a)
    (next : Reads (f a) b) : Reads (x >>= f) b := by
  intro d budget
  have ran : ((x >>= f) d).run budget = ((x d).run budget).bind fun found => (f found.1 d).run found.2 :=
    rfl
  rw [ran, first d budget, Option.bind_some]
  exact next d budget

theorem reads_mapM {f : α → Read β} {xs : List α} {bs : List β}
    (each : List.Forall₂ (fun x b => Reads (f x) b) xs bs) : Reads (xs.mapM f) bs := by
  induction each with
  | nil => exact reads_pure []
  | cons first _ ih =>
    rw [List.mapM_cons]
    exact first.bind (ih.bind (reads_pure _))

theorem reads_filterMapM {f : α → Read (Option β)} {xs : List α} {bs : List β}
    (each : List.Forall₂ (fun x b => Reads (f x) (some b)) xs bs) : Reads (xs.filterMapM f) bs := by
  induction each with
  | nil => exact reads_pure []
  | cons first _ ih =>
    rw [List.filterMapM_cons]
    exact first.bind (ih.bind (reads_pure _))

theorem reads_guard {p : Prop} [Decidable p] (holds : p) : Reads (guard p) () := by
  rw [guard, if_pos holds]
  exact reads_pure ()

/-! ### Scalars -/

theorem reads_text (tag : Option Tag) (style : Style) (text : String) :
    Reads (Read.text (.scalar tag style text)) text :=
  fun _ _ => rfl

/-- Decimal digits are counted up. -/
theorem foldlM_digits {ds : List Char} (decimal : ds ⊆ digits) (n : Nat) :
    (ds.foldlM (fun n c => do
      let d ← digitValue? c
      if d < 10 then some (10 * n + d) else none) n) = some (Nat.ofDigitChars 10 ds n) := by
  have value : ∀ d ∈ digits, digitValue? d = some (d.toNat - '0'.toNat) ∧ d.toNat - '0'.toNat < 10 :=
    Chars.forall_mem_of_all (by decide)
  induction ds generalizing n with
  | nil => rfl
  | cons d ds ih =>
    obtain ⟨here, others⟩ := List.cons_subset.mp decimal
    obtain ⟨known, small⟩ := value d here
    rw [List.foldlM_cons, known]
    simp only [Option.bind_eq_bind, Option.bind_some, if_pos small]
    exact ih others _

/-- The digits of a number that is not zero do not start with one. -/
theorem head_toDigits {n : Nat} (pos : 0 < n) : ∃ d ds, Nat.toDigits 10 n = d :: ds ∧ d ≠ '0' := by
  induction n using Nat.strong_induction_on with
  | _ n ih =>
    by_cases small : n < 10
    · have known : ∀ n < 10, 0 < n → n.digitChar ≠ '0' := by decide
      exact ⟨_, [], Nat.toDigits_of_lt_base small, known n small pos⟩
    · obtain ⟨d, ds, known, other⟩ := ih (n / 10) (by omega) (by omega)
      refine ⟨d, ds ++ [(n % 10).digitChar], ?_, other⟩
      rw [Nat.toDigits_of_base_le (by decide) (by omega), known, List.cons_append]

theorem magnitude?_toDigits (n : Nat) : magnitude? (Nat.toDigits 10 n) = some n := by
  rcases Nat.eq_zero_or_pos n with rfl | pos
  · rfl
  · obtain ⟨d, ds, known, other⟩ := head_toDigits pos
    have counted := foldlM_digits (Code.Lexer.toDigits_subset n) 0
    rw [Nat.ofDigitChars_ten_toDigits] at counted
    have based : based? (Nat.toDigits 10 n) = none := by
      rw [known]
      unfold based?
      split <;> simp_all
    have decimal : decimal? (Nat.toDigits 10 n) = digits? 10 (Nat.toDigits 10 n) := by
      rw [known]
      unfold decimal?
      split <;> simp_all
    rw [magnitude?, based, Option.none_or, decimal, digits?, counted]
    simp [known]

/-- An integer is read from its decimal text. -/
theorem integer?_toString (n : Int) : integer? (toString n) = some n := by
  have magnitude := magnitude?_toDigits n.natAbs
  rw [Json.toString_eq_signed, Decimal.Layout.signed]
  by_cases negative : n < 0
  · have text : ("-" ++ toString n.natAbs).toList = '-' :: Nat.toDigits 10 n.natAbs := by
      rw [String.toList_append, Json.toList_toString]
      rfl
    have value : -(n.natAbs : Int) = n := by omega
    rw [decide_eq_true negative, if_pos rfl, integer?, text]
    simp only [magnitude]
    exact congrArg some value
  · obtain ⟨d, ds, known, digit⟩ := Json.begins_toString n.natAbs
    have noSign : d ≠ '-' ∧ d ≠ '+' := by
      have other : ∀ d ∈ digits, d ≠ '-' ∧ d ≠ '+' := Chars.forall_mem_of_all (by decide)
      exact other d digit
    have value : (n.natAbs : Int) = n := by omega
    rw [← Json.toList_toString, known] at magnitude
    rw [decide_eq_false negative, if_neg Bool.false_ne_true, integer?, known]
    split
    · next same => exact absurd (List.cons.inj same).1 noSign.1
    · next same => exact absurd (List.cons.inj same).1 noSign.2
    · rw [magnitude, Option.map_some]
      exact congrArg some value

theorem reads_integer {n : Int} (fits : Word.fitsSigned 64 n = true) :
    Reads (Read.integer (.scalar none .plain (toString n))) n := by
  have bare : Reads (Read.bare Scalar.integerTag (.scalar none .plain (toString n))) (toString n) :=
    fun _ _ => rfl
  refine bare.bind ?_
  simp only [integer?_toString]
  exact (reads_guard fits).bind (reads_pure n)

/-! ### Collections -/

theorem reads_list {item : Node → Read α} {ns : List Node} {as : List α}
    (each : List.Forall₂ (fun n a => Reads (item n) a) ns as) (tag : Option Tag) :
    Reads (Read.list item (.sequence tag ns)) as :=
  reads_mapM each

/-- Entries in the order of their keys are read as they are. -/
theorem reads_dictionary {key : Node → Read String} {value : Node → Read α}
    {nodes : List (Node × Node)} {known : Dictionary α} (sorted : known.Sorted)
    (each : List.Forall₂ (fun node entry => Reads (key node.1) entry.1 ∧ Reads (value node.2) entry.2)
      nodes known.entries) (tag : Option Tag) :
    Reads (Read.dictionary key value (.mapping tag nodes)) known := by
  rw [← Dictionary.ofList_entries sorted]
  have listed : Reads (Read.entries (.mapping tag nodes)) nodes := fun _ _ => rfl
  refine listed.bind (Reads.bind (a := known.entries) (reads_mapM ?_) (reads_pure _))
  exact each.imp fun node entry both => both.1.bind (both.2.bind (reads_pure _))

/-- Entries with known names are read as they are, each once. -/
theorem reads_fields (names : List String) (entries : List (String × Node)) (strict : Bool)
    (known : ∀ entry ∈ entries, entry.1 ∈ names) (once : (entries.map (·.1)).Nodup) :
    Reads (Fields.read names strict
      (.mapping none (entries.map fun entry => (.scalar none .doubleQuoted entry.1, entry.2))))
      ⟨entries⟩ := by
  have listed : Reads (Read.entries (.mapping none
      (entries.map fun entry => (.scalar none .doubleQuoted entry.1, entry.2))))
      (entries.map fun entry => (.scalar none .doubleQuoted entry.1, entry.2)) := fun _ _ => rfl
  refine listed.bind (Reads.bind (a := entries) (reads_filterMapM ?_)
    ((reads_guard once).bind (reads_pure _)))
  refine List.forall₂_map_left_iff.mpr (List.forall₂_same.mpr fun entry member => ?_)
  have here : names.contains entry.1 = true := List.contains_iff_mem.mpr (known entry member)
  refine (reads_text none .doubleQuoted entry.1).bind ?_
  simp only [here, Bool.or_true, if_true]
  exact (reads_guard trivial).bind (reads_pure _)

theorem reads_required {f : Fields} {name : String} {item : Node → Read α} {n : Node} {a : α}
    (found : f.entries.lookup name = some n) (read : Reads (item n) a) :
    Reads (f.required name item) a := by
  unfold Fields.required
  rw [found]
  exact read

theorem reads_getD {f : Fields} {name : String} {item : Node → Read α} {n : Node} {a default : α}
    (found : f.entries.lookup name = some n) (read : Reads (item n) a) :
    Reads (f.getD name item default) a := by
  unfold Fields.getD
  rw [found]
  exact read

/-! ### What is true of all that is read -/

/-- A property of whatever is read. -/
def Gives (x : Read α) (given : α → Prop) : Prop :=
  ∀ d budget a left, (x d).run budget = some (a, left) → given a

theorem gives_pure {given : α → Prop} {a : α} (known : given a) : Gives (pure a) given := by
  intro d budget b left read
  have same : some (a, budget) = some (b, left) := read
  cases same
  exact known

theorem Gives.bind {x : Read α} {f : α → Read β} {given : α → Prop} {given' : β → Prop}
    (first : Gives x given) (next : ∀ a, given a → Gives (f a) given') :
    Gives (x >>= f) given' := by
  intro d budget b left read
  have ran : ((x >>= f) d).run budget = ((x d).run budget).bind fun found => (f found.1 d).run found.2 :=
    rfl
  rw [ran] at read
  obtain ⟨⟨a, middle⟩, here, read⟩ := Option.bind_eq_some_iff.mp read
  exact next a (first d budget a middle here) d middle b left read

theorem gives_any (x : Read α) : Gives x fun _ => True := fun _ _ _ _ _ => trivial

theorem gives_dictionary (key : Node → Read String) (value : Node → Read α) (n : Node) :
    Gives (Read.dictionary key value n) Dictionary.Sorted :=
  (gives_any _).bind fun _ _ => (gives_any _).bind fun _ _ => gives_pure (Dictionary.sorted_ofList _)

theorem gives_required {given : α → Prop} {item : Node → Read α} (f : Fields) (name : String)
    (each : ∀ n, Gives (item n) given) : Gives (f.required name item) given := by
  unfold Fields.required
  cases f.entries.lookup name with
  | none => exact nofun
  | some n => exact each n

theorem gives_getD {given : α → Prop} {item : Node → Read α} {default : α} (f : Fields)
    (name : String) (each : ∀ n, Gives (item n) given) (otherwise : given default) :
    Gives (f.getD name item default) given := by
  unfold Fields.getD
  cases f.entries.lookup name with
  | none => exact gives_pure otherwise
  | some n => exact each n

end Companion.Yaml

import Companion.Text.Basic
import Mathlib.Data.List.Perm.Basic
import Mathlib.Data.String.Basic

/-! Finding what was put under a key, and the order of keys. -/

set_option autoImplicit false

namespace Companion

theorem lookup_cons_eq {α : Type} (key : String) (entry : String × α)
    (entries : List (String × α)) :
    (entry :: entries).lookup key = if key = entry.1 then some entry.2 else entries.lookup key := by
  rw [List.lookup_cons]
  split <;> simp_all

namespace Dictionary

variable {α : Type}

theorem lookup_place (key other : String) (value : α) (entries : List (String × α)) :
    (place key value entries).lookup other =
      if other = key then some value else entries.lookup other := by
  induction entries with
  | nil => exact lookup_cons_eq other (key, value) []
  | cons entry entries ih =>
    unfold place
    split
    · next same =>
      rw [lookup_cons_eq, lookup_cons_eq, ← same]
      split <;> rfl
    · next differ =>
      split
      · rw [lookup_cons_eq]
      · rw [lookup_cons_eq, lookup_cons_eq, ih]
        split
        · next found => rw [if_neg (found ▸ Ne.symm differ)]
        · rfl

/-- What was put under a key is found there, and nothing else changes. -/
theorem get?_insert (d : Dictionary α) (key other : String) (value : α) :
    (d.insert key value).get? other = if other = key then some value else d.get? other :=
  lookup_place ..

/-- What was under a key is gone, and nothing else changes. -/
theorem get?_erase (d : Dictionary α) (key other : String) :
    (d.erase key).get? other = if other = key then none else d.get? other := by
  unfold erase get?
  induction d.entries with
  | nil => simp
  | cons entry entries ih =>
    rw [lookup_cons_eq, List.filter_cons]
    by_cases there : entry.1 = key
    · rw [if_neg (by simp [there]), ih]
      by_cases same : other = key <;> simp [same, there]
    · rw [if_pos (by simp [there]), lookup_cons_eq, ih]
      by_cases first : other = entry.1 <;> simp [first, there]

/-! ### Entries in the order of their keys -/

/-- Each key stands before those that are greater. -/
def Sorted (d : Dictionary α) : Prop := d.entries.Pairwise fun entry later => entry.1 < later.1

theorem sorted_empty : (empty : Dictionary α).Sorted := List.Pairwise.nil

theorem forall_mem_place {p : String → Prop} {key : String} {value : α}
    {entries : List (String × α)} (here : p key) (known : ∀ entry ∈ entries, p entry.1) :
    ∀ entry ∈ place key value entries, p entry.1 := by
  induction entries with
  | nil => exact List.forall_mem_singleton.mpr here
  | cons entry entries ih =>
    obtain ⟨first, others⟩ := List.forall_mem_cons.mp known
    unfold place
    split
    · exact List.forall_mem_cons.mpr ⟨here, others⟩
    · split
      · exact List.forall_mem_cons.mpr ⟨here, known⟩
      · exact List.forall_mem_cons.mpr ⟨first, ih others⟩

theorem Sorted.insert {d : Dictionary α} (sorted : d.Sorted) (key : String) (value : α) :
    (d.insert key value).Sorted := by
  have placed (entries : List (String × α))
      (sorted : entries.Pairwise fun entry later => entry.1 < later.1) :
      (place key value entries).Pairwise fun entry later => entry.1 < later.1 := by
    induction entries with
    | nil => exact List.pairwise_singleton ..
    | cons entry entries ih =>
      obtain ⟨less, others⟩ := List.pairwise_cons.mp sorted
      unfold place
      split
      · next same => exact List.pairwise_cons.mpr ⟨fun later member => same ▸ less later member, others⟩
      · next differ =>
        split
        · next before =>
          refine List.pairwise_cons.mpr ⟨List.forall_mem_cons.mpr ⟨before, ?_⟩, sorted⟩
          exact fun later member => lt_trans before (less later member)
        · next after =>
          have greater : entry.1 < key := lt_of_le_of_ne (not_lt.mp after) (Ne.symm differ)
          exact List.pairwise_cons.mpr ⟨forall_mem_place greater less, ih others⟩
  exact placed d.entries sorted

theorem Sorted.erase {d : Dictionary α} (sorted : d.Sorted) (key : String) :
    (d.erase key).Sorted :=
  List.Pairwise.filter _ sorted

theorem sorted_ofList (entries : List (String × α)) : (ofList entries).Sorted := by
  have kept (d : Dictionary α) (sorted : d.Sorted) :
      (entries.foldl (fun d entry => d.insert entry.1 entry.2) d).Sorted := by
    induction entries generalizing d with
    | nil => exact sorted
    | cons entry entries ih => exact ih _ (sorted.insert entry.1 entry.2)
  exact kept empty sorted_empty

/-- A key that is greater than all others is placed at the end. -/
theorem place_of_lt {key : String} {value : α} {entries : List (String × α)}
    (greatest : ∀ entry ∈ entries, entry.1 < key) :
    place key value entries = entries ++ [(key, value)] := by
  induction entries with
  | nil => rfl
  | cons entry entries ih =>
    obtain ⟨less, others⟩ := List.forall_mem_cons.mp greatest
    rw [place, if_neg (ne_of_gt less), if_neg (lt_asymm less), ih others, List.cons_append]

/-- Entries in order are put together as they are. -/
theorem ofList_entries {d : Dictionary α} (sorted : d.Sorted) : ofList d.entries = d := by
  have appended (front back : List (String × α))
      (sorted : (front ++ back).Pairwise fun entry later => entry.1 < later.1) :
      back.foldl (fun (d : Dictionary α) entry => d.insert entry.1 entry.2) ⟨front⟩ =
        ⟨front ++ back⟩ := by
    induction back generalizing front with
    | nil => rw [List.append_nil]; rfl
    | cons entry back ih =>
      obtain ⟨-, -, before⟩ := List.pairwise_append.mp sorted
      have last : (⟨front⟩ : Dictionary α).insert entry.1 entry.2 = ⟨front ++ [entry]⟩ :=
        congrArg Dictionary.mk
          (place_of_lt fun other member => before other member entry (List.mem_cons_self ..))
      rw [List.foldl_cons, last, ih (front ++ [entry]) (by simpa using sorted), List.append_assoc]
      rfl
  exact appended [] d.entries sorted

end Dictionary

/-! ### Entries in another order -/

section

variable {κ α : Type} [BEq κ] [LawfulBEq κ] {key : κ} {value : α}

theorem mem_of_lookup_eq_some {entries : List (κ × α)}
    (found : entries.lookup key = some value) : (key, value) ∈ entries := by
  obtain ⟨before, after, split, -⟩ := List.lookup_eq_some_iff.mp found
  rw [split]
  exact List.mem_append_right _ (List.mem_cons_self ..)

/-- Among entries that agree on what is under a key, any of them is found. -/
theorem lookup_eq_some_of_agree {entries : List (κ × α)}
    (member : (key, value) ∈ entries) (agree : ∀ other, (key, other) ∈ entries → other = value) :
    entries.lookup key = some value := by
  cases found : entries.lookup key with
  | none =>
    have absent := List.lookup_eq_none_iff.mp found (key, value) member
    simp at absent
  | some other => rw [agree other (mem_of_lookup_eq_some found)]

end

variable {α : Type} {key : String}

/-- Where a key occurs at most once, the order of entries does not matter. -/
theorem lookup_eq_of_perm {entries others : List (String × α)}
    (same : entries.Perm others) (once : (entries.map Prod.fst).count key ≤ 1) :
    entries.lookup key = others.lookup key := by
  induction same with
  | nil => rfl
  | cons entry same ih =>
    rw [lookup_cons_eq, lookup_cons_eq, ih]
    rw [List.map_cons, List.count_cons] at once
    omega
  | swap entry other entries =>
    by_cases first : entry.1 = key
    · by_cases second : other.1 = key
      · rw [List.map_cons, List.map_cons, first, second, List.count_cons_self,
          List.count_cons_self] at once
        omega
      · simp only [lookup_cons_eq, if_neg (Ne.symm second)]
    · simp only [lookup_cons_eq, if_neg (Ne.symm first)]
  | trans same _ ih ih' =>
    exact (ih once).trans (ih' (by rwa [← (same.map Prod.fst).count_eq]))

end Companion

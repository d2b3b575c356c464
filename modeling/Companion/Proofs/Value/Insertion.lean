import Companion.Proofs.Value.Admission

/-! Collections built from data in any order, with repeats.

Adding a member keeps a collection listed: an ordered one keeps rising, since the order of keys is
transitive, and a hashed one passes over members it holds.
-/

set_option autoImplicit false

namespace Companion.Datum

theorem order_self (d : Datum) : order d d = .eq := by
  have swapped := order_swap d d
  cases self : order d d with
  | eq => rfl
  | lt | gt =>
    rw [self] at swapped
    cases swapped

variable {P Q : Datum → Prop}

/-! ### Adding one member -/

theorem mayPrecede_of_lt {ordered : Bool} {a b : Datum} (h : order a b = .lt) :
    MayPrecede ordered a b := by
  cases ordered with
  | true => exact h
  | false => exact fun same => by simp [h] at same

variable {ordered : Bool} {d : Datum} {known : List Datum}

theorem eq_or_mem_of_mem_insert {x : Datum} (h : x ∈ insert ordered d known) :
    x = d ∨ x ∈ known := by
  induction known with
  | nil => exact .inl (List.mem_singleton.1 h)
  | cons e known ih =>
    unfold insert at h
    grind

theorem pairwise_insert (total : IsTotalOn P) (hd : P d) (admitted : ∀ e ∈ known, P e)
    (listed : known.Pairwise (MayPrecede ordered)) :
    (insert ordered d known).Pairwise (MayPrecede ordered) := by
  induction known with
  | nil => exact List.pairwise_singleton _ _
  | cons e known ih =>
    obtain ⟨before, rest⟩ := List.pairwise_cons.1 listed
    obtain ⟨he, others⟩ := List.forall_mem_cons.1 admitted
    -- What goes past a member is added among those that follow it.
    have passed (after : MayPrecede ordered e d) :
        (e :: insert ordered d known).Pairwise (MayPrecede ordered) := by
      refine List.pairwise_cons.2 ⟨fun x inside => ?_, ih others rest⟩
      obtain rfl | old := eq_or_mem_of_mem_insert inside
      · exact after
      · exact before x old
    cases place : order d e with
    | eq => simpa only [insert, place] using listed
    | gt =>
      have after : order e d = .lt := by rw [order_swap, place]; rfl
      rw [insert, place]
      exact passed (mayPrecede_of_lt after)
    | lt =>
      rw [insert, place]
      cases ordered with
      | true =>
        refine List.pairwise_cons.2 ⟨List.forall_mem_cons.2 ⟨place, fun x old => ?_⟩, listed⟩
        exact total.trans hd he (others x old) place (before x old)
      | false =>
        exact passed fun same => by simp [order_eq_comm.1 same] at place

theorem keys_insertEntry (ordered : Bool) (key item : Datum) (known : List (Datum × Datum)) :
    (insertEntry ordered key item known).map Prod.fst =
      insert ordered key (known.map Prod.fst) := by
  induction known with
  | nil => rfl
  | cons e known ih =>
    cases place : order key e.1 with
    | eq | gt => simp [insertEntry, insert, place, ih]
    | lt => cases ordered <;> simp [insertEntry, insert, place, ih]

theorem mem_insertEntry {key item : Datum} {known : List (Datum × Datum)} {e : Datum × Datum}
    (h : e ∈ insertEntry ordered key item known) :
    (e.1 = key ∨ e.1 ∈ known.map Prod.fst) ∧ (e.2 = item ∨ e.2 ∈ known.map Prod.snd) := by
  induction known with
  | nil =>
    cases List.mem_singleton.1 h
    exact ⟨.inl rfl, .inl rfl⟩
  | cons f known ih =>
    unfold insertEntry at h
    grind

/-! ### Adding one after the other -/

theorem areListed_of_pairwise {ordered : Bool} {known : List Datum}
    (listed : known.Pairwise (MayPrecede ordered)) : AreListed ordered known := by
  cases ordered with
  | true => exact listed
  | false =>
    refine listed.imp fun {a b} differ same => differ ?_
    rw [same, order_self]

/-- Members of a kind make a collection of members of that kind, whatever order they come in. -/
theorem exists_ofMembers (ordered : Bool) (total : IsTotalOn P) {items : List Datum}
    (admitted : ∀ d ∈ items, P d) :
    ∃ known, ofMembers ordered items = list known ∧ (∀ d ∈ known, P d) ∧
      known.Pairwise (MayPrecede ordered) := by
  -- The induction is on what is still to be added, over any listed collection.
  suffices added : ∀ known : List Datum, (∀ d ∈ known, P d) → known.Pairwise (MayPrecede ordered) →
      (∀ d ∈ items.foldl (fun known d => insert ordered d known) known, P d) ∧
        (items.foldl (fun known d => insert ordered d known) known).Pairwise (MayPrecede ordered) from
    ⟨_, rfl, added [] nofun .nil⟩
  induction items with
  | nil => exact fun known kept listed => ⟨kept, listed⟩
  | cons d items ih =>
    intro known kept listed
    obtain ⟨first, others⟩ := List.forall_mem_cons.1 admitted
    refine ih others _ (fun x inside => ?_) (pairwise_insert total first kept listed)
    obtain rfl | old := eq_or_mem_of_mem_insert inside
    · exact first
    · exact kept x old

/-- Entries of a kind make a map of entries of that kind, of which no two have the same key. -/
theorem exists_ofEntries (ordered : Bool) (total : IsTotalOn P) {entries : List (Datum × Datum)}
    (admitted : ∀ e ∈ entries, P e.1 ∧ Q e.2) :
    ∃ known, ofEntries ordered entries = map known ∧ (∀ e ∈ known, P e.1 ∧ Q e.2) ∧
      (known.map Prod.fst).Pairwise (MayPrecede ordered) := by
  suffices added : ∀ known : List (Datum × Datum), (∀ e ∈ known, P e.1 ∧ Q e.2) →
      (known.map Prod.fst).Pairwise (MayPrecede ordered) →
      (∀ e ∈ entries.foldl (fun known e => insertEntry ordered e.1 e.2 known) known,
          P e.1 ∧ Q e.2) ∧
        ((entries.foldl (fun known e => insertEntry ordered e.1 e.2 known) known).map
          Prod.fst).Pairwise (MayPrecede ordered) from
    ⟨_, rfl, added [] nofun .nil⟩
  induction entries with
  | nil => exact fun known kept listed => ⟨kept, listed⟩
  | cons e entries ih =>
    intro known kept listed
    obtain ⟨⟨key, item⟩, others⟩ := List.forall_mem_cons.1 admitted
    have keys : ∀ k ∈ known.map Prod.fst, P k := List.forall_mem_map.2 fun f hf => (kept f hf).1
    have items : ∀ d ∈ known.map Prod.snd, Q d := List.forall_mem_map.2 fun f hf => (kept f hf).2
    refine ih others _ (fun f inside => ?_) ?_
    · obtain ⟨ofKey, ofItem⟩ := mem_insertEntry inside
      exact ⟨ofKey.elim (fun same => same ▸ key) (keys _),
        ofItem.elim (fun same => same ▸ item) (items _)⟩
    · rw [keys_insertEntry]
      exact pairwise_insert total key keys listed

end Companion.Datum

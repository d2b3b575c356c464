import Companion.Proofs.Value.Order
import Mathlib.Data.List.Perm.Basic

/-! Which data a leaf type admits, and which of them it takes for equal.

A type that can be a key tells any two of its data apart: their order is equality only if they
are equal.
-/

set_option autoImplicit false

namespace Companion

variable {α : Type} {R : α → α → Prop}

/-! ### Lists that agree -/

theorem forall₂_trans {as bs cs : List α} (trans : ∀ {a b c}, R a b → R b c → R a c)
    (left : List.Forall₂ R as bs) (right : List.Forall₂ R bs cs) : List.Forall₂ R as cs := by
  induction left generalizing cs with
  | nil => exact right
  | cons first _ ih =>
    obtain _ | ⟨second, others⟩ := right
    exact .cons (trans first second) (ih others)

theorem eq_of_forall₂ {as bs : List α} (determined : ∀ {a b}, R a b → a = b)
    (agree : List.Forall₂ R as bs) : as = bs := by
  rw [← List.forall₂_eq_eq_eq]
  exact agree.imp fun _ _ => determined

/-- What an ordered collection lists has one order. What a hashed one lists has any. -/
def Rearranged (ordered : Bool) (as bs : List α) : Prop :=
  if ordered then as = bs else as.Perm bs

namespace Rearranged

variable {ordered : Bool} {as bs cs : List α}

theorem refl (ordered : Bool) (as : List α) : Rearranged ordered as as := by
  cases ordered with
  | true => exact Eq.refl as
  | false => exact List.Perm.refl as

theorem symm (h : Rearranged ordered as bs) : Rearranged ordered bs as := by
  cases ordered with
  | true => exact Eq.symm h
  | false => exact List.Perm.symm h

theorem trans (h : Rearranged ordered as bs) (h' : Rearranged ordered bs cs) :
    Rearranged ordered as cs := by
  cases ordered with
  | true => exact Eq.trans h h'
  | false => exact List.Perm.trans h h'

theorem map {β : Type} (f : α → β) (h : Rearranged ordered as bs) :
    Rearranged ordered (as.map f) (bs.map f) := by
  cases ordered with
  | true => exact congrArg (List.map f) h
  | false => exact List.Perm.map f h

theorem perm (h : Rearranged ordered as bs) : as.Perm bs := by
  cases ordered with
  | true => exact .of_eq h
  | false => exact h

/-- Lists that agree one by one can be rearranged together. -/
theorem exists_of_forall₂ (agree : List.Forall₂ R as bs) (h : Rearranged ordered bs cs) :
    ∃ ds, Rearranged ordered as ds ∧ List.Forall₂ R ds cs := by
  cases ordered with
  | true =>
    cases h
    exact ⟨as, .refl true as, agree⟩
  | false =>
    have both : Relation.Comp (List.Forall₂ R) List.Perm as cs := ⟨bs, agree, h⟩
    rwa [List.forall₂_comp_perm_eq_perm_comp_forall₂] at both

end Rearranged

/-- Members of ordered collections rise. Those of hashed collections differ. -/
def Datum.AreListed (ordered : Bool) (ds : List Datum) : Prop :=
  if ordered then ds.Pairwise fun a b => order a b = .lt else ds.Nodup

theorem Datum.AreListed.rearranged {ordered : Bool} {ds es : List Datum}
    (listed : AreListed ordered ds) (h : Rearranged ordered ds es) : AreListed ordered es := by
  cases ordered with
  | true =>
    cases h
    exact listed
  | false => exact (List.Perm.nodup_iff h).1 listed

/-- Entries have the same keys and their items agree. -/
def Datum.EntriesAgree (same : Datum → Datum → Prop) : List (Datum × Datum) →
    List (Datum × Datum) → Prop :=
  List.Forall₂ fun a b => a.1 = b.1 ∧ same a.2 b.2

theorem Datum.EntriesAgree.keys {same : Datum → Datum → Prop} {es fs : List (Datum × Datum)}
    (agree : EntriesAgree same es fs) : es.map Prod.fst = fs.map Prod.fst := by
  induction agree with
  | nil => rfl
  | cons first _ ih => rw [List.map_cons, List.map_cons, first.1, ih]

namespace Leaf

/-- Whether a datum is a value of the type. Narrow floats are those that narrowing leaves as they
are. -/
def Admits : Leaf → Datum → Prop
  | integer signed width, .integer n =>
    (range signed width).1 ≤ n ∧ n ≤ (range signed width).2
  | float wide, .float x => wide ∨ x.toFloat32.toFloat = x
  | bool, .bool _ => True
  | char, .char _ => True
  | text, .text _ => True
  | option _, .absent => True
  | option t, .present d => t.Admits d
  | sequence t, .list items => ∀ d ∈ items, t.Admits d
  | set ordered t, .list items => (∀ d ∈ items, t.Admits d) ∧ Datum.AreListed ordered items
  | map ordered k t, .map entries =>
    (∀ e ∈ entries, k.Admits e.1 ∧ t.Admits e.2) ∧
      Datum.AreListed ordered (entries.map Prod.fst)
  | _, _ => False

/-- Whether two data are equal as values of the type. Members and keys are equal as they are,
since nothing that is one contains a hashed collection. -/
def Same : Leaf → Datum → Datum → Prop
  | option t, .present a, .present b => t.Same a b
  | sequence t, .list as, .list bs => List.Forall₂ t.Same as bs
  | set ordered _, .list as, .list bs => Rearranged ordered as bs
  | map ordered _ t, .map as, .map bs =>
    ∃ cs, Rearranged ordered as cs ∧ Datum.EntriesAgree t.Same cs bs
  | _, a, b => a = b

/-- The type and the types it is made of. -/
def parts : Leaf → List Leaf
  | option t => option t :: t.parts
  | sequence t => sequence t :: t.parts
  | set ordered t => set ordered t :: t.parts
  | map ordered k t => map ordered k t :: (k.parts ++ t.parts)
  | t => [t]

/-- What values of the type hold directly. -/
def components : Leaf → List Leaf
  | option t => [t]
  | sequence t => [t]
  | set _ t => [t]
  | map _ k t => [k, t]
  | _ => []

/-- Whether what a collection sorts or hashes allows for it. -/
def isFormed : Leaf → Bool
  | set true t => t.isOrdered
  | set false t => t.isHashable
  | map true k _ => k.isOrdered
  | map false k _ => k.isHashable
  | _ => true

theorem mem_parts {t u : Leaf} : u ∈ t.parts ↔ u = t ∨ ∃ s ∈ t.components, u ∈ s.parts := by
  cases t <;> simp [parts, components]

theorem parts_subset {s t : Leaf} (h : s ∈ t.parts) : s.parts ⊆ t.parts := by
  induction t with
  | option t ih | sequence t ih | set ordered t ih =>
    obtain rfl | inner := List.mem_cons.1 h
    · exact List.Subset.refl _
    · exact List.subset_cons_of_subset _ (ih inner)
  | map ordered k t ihk ih =>
    obtain rfl | inner := List.mem_cons.1 h
    · exact List.Subset.refl _
    · apply List.subset_cons_of_subset
      obtain inKey | inItem := List.mem_append.1 inner
      · exact List.subset_append_of_subset_left _ (ihk inKey)
      · exact List.subset_append_of_subset_right _ (ih inItem)
  | _ =>
    obtain rfl := List.mem_singleton.1 h
    exact List.Subset.refl _

theorem isHashable_eq_isOrdered (t : Leaf) : t.isHashable = t.isOrdered := by
  induction t <;> simp_all [isHashable, isOrdered]

@[simp] theorem isFormed_set (ordered : Bool) (t : Leaf) :
    (set ordered t).isFormed = t.isOrdered := by
  cases ordered <;> simp [isFormed, isHashable_eq_isOrdered]

@[simp] theorem isFormed_map (ordered : Bool) (k t : Leaf) :
    (map ordered k t).isFormed = k.isOrdered := by
  cases ordered <;> simp [isFormed, isHashable_eq_isOrdered]

/-- Which constructor a value of the type has. -/
def HasForm : Leaf → Datum → Prop
  | integer .., d => ∃ n, d = .integer n
  | float _, d => ∃ x, d = .float x
  | bool, d => ∃ b, d = .bool b
  | char, d => ∃ c, d = .char c
  | text, d => ∃ s, d = .text s
  | option _, d => d = .absent ∨ ∃ x, d = .present x
  | sequence _, d | set .., d => ∃ items, d = .list items
  | map .., d => ∃ entries, d = .map entries

theorem hasForm_of_admits {t : Leaf} {d : Datum} (h : t.Admits d) : t.HasForm d := by
  cases t <;> cases d <;>
    first | exact ⟨_, rfl⟩ | exact .inl rfl | exact .inr ⟨_, rfl⟩ | cases h

/-! ### Equality of values -/

theorem same_refl (t : Leaf) (d : Datum) : t.Same d d := by
  induction t generalizing d with
  | option t ih => cases d with
    | present d => exact ih d
    | _ => rfl
  | sequence t ih => cases d with
    | list ds => exact List.forall₂_same.2 fun d _ => ih d
    | _ => rfl
  | set ordered t => cases d with
    | list ds => exact .refl ordered ds
    | _ => rfl
  | map ordered k t _ ih => cases d with
    | map es =>
      exact ⟨es, .refl ordered es, List.forall₂_same.2 fun e _ => ⟨rfl, ih e.2⟩⟩
    | _ => rfl
  | _ => rfl

theorem same_symm {t : Leaf} {a b : Datum} (same : t.Same a b) : t.Same b a := by
  induction t generalizing a b with
  | option t ih => cases a with
    | present a => cases b with
      | present b => exact ih same
      | _ => cases same
    | _ => cases same; exact same_refl _ _
  | sequence t ih => cases a with
    | list as => cases b with
      | list bs => exact (same.imp fun _ _ => ih).flip
      | _ => cases same
    | _ => cases same; exact same_refl _ _
  | set ordered t => cases a with
    | list as => cases b with
      | list bs => exact Rearranged.symm same
      | _ => cases same
    | _ => cases same; exact same_refl _ _
  | map ordered k t _ ih => cases a with
    | map as => cases b with
      | map bs =>
        obtain ⟨cs, known, agree⟩ := same
        have back : Datum.EntriesAgree t.Same bs cs :=
          (agree.imp fun _ _ agree => ⟨agree.1.symm, ih agree.2⟩).flip
        exact Rearranged.exists_of_forall₂ back known.symm
      | _ => cases same
    | _ => cases same; exact same_refl _ _
  | _ => exact Eq.symm same

theorem same_trans {t : Leaf} {a b c : Datum} (left : t.Same a b) (right : t.Same b c) :
    t.Same a c := by
  induction t generalizing a b c with
  | option t ih => cases a with
    | present a => cases b with
      | present b => cases c with
        | present c => exact ih left right
        | _ => cases right
      | _ => cases left
    | _ => cases left; exact right
  | sequence t ih => cases a with
    | list as => cases b with
      | list bs => cases c with
        | list cs => exact forall₂_trans ih left right
        | _ => cases right
      | _ => cases left
    | _ => cases left; exact right
  | set ordered t => cases a with
    | list as => cases b with
      | list bs => cases c with
        | list cs => exact Rearranged.trans left right
        | _ => cases right
      | _ => cases left
    | _ => cases left; exact right
  | map ordered k t _ ih => cases a with
    | map as => cases b with
      | map bs => cases c with
        | map cs =>
          obtain ⟨ds, first, agree⟩ := left
          obtain ⟨es, second, agree'⟩ := right
          -- The second rearrangement is made before items are compared, not after.
          obtain ⟨gs, third, moved⟩ := Rearranged.exists_of_forall₂ agree second
          have joined : Datum.EntriesAgree t.Same gs cs :=
            forall₂_trans (fun l r => ⟨l.1.trans r.1, ih l.2 r.2⟩) moved agree'
          exact ⟨gs, first.trans third, joined⟩
        | _ => cases right
      | _ => cases left
    | _ => cases left; exact right
  | _ => exact Eq.trans left right

/-- Members and keys are the same only if they are equal as they are. -/
theorem eq_of_same {t : Leaf} {a b : Datum} (key : t.isOrdered) (same : t.Same a b) : a = b := by
  induction t generalizing a b with
  | option t ih => cases a with
    | present a => cases b with
      | present b => rw [ih key same]
      | _ => cases same
    | _ => exact same
  | sequence t ih => cases a with
    | list as => cases b with
      | list bs => rw [eq_of_forall₂ (ih key) same]
      | _ => cases same
    | _ => exact same
  | set ordered t => cases a with
    | list as => cases b with
      | list bs =>
        -- A hashed set is no key.
        obtain ⟨rfl, -⟩ : ordered = true ∧ t.isOrdered := by simpa [isOrdered] using key
        exact congrArg Datum.list same
      | _ => cases same
    | _ => exact same
  | map ordered k t _ ih => cases a with
    | map as => cases b with
      | map bs =>
        obtain ⟨⟨rfl, -⟩, item⟩ : (ordered = true ∧ k.isOrdered) ∧ t.isOrdered := by
          simpa [isOrdered] using key
        obtain ⟨_, rfl, agree⟩ := same
        rw [eq_of_forall₂ (fun agree => Prod.ext agree.1 (ih item agree.2)) agree]
      | _ => cases same
    | _ => exact same
  | _ => exact same

/-! ### Keys -/

/-- The order of keys sorts them: it tells them apart and is transitive. -/
theorem isTotalOn_admits {t : Leaf} (ordered : t.isOrdered) : Datum.IsTotalOn t.Admits := by
  induction t with
  | integer =>
    have total := Datum.isTotalOn_range .integer id (fun _ _ => id) fun _ _ => rfl
    exact total.mono fun _ => hasForm_of_admits
  | float => cases ordered
  | bool =>
    have total := Datum.isTotalOn_range .bool Bool.toNat (by decide) fun _ _ => rfl
    exact total.mono fun _ => hasForm_of_admits
  | char =>
    have total := Datum.isTotalOn_range .char Char.toNat (fun _ _ => Char.toNat_inj.mp)
      fun _ _ => rfl
    exact total.mono fun _ => hasForm_of_admits
  | text =>
    have total := Datum.isTotalOn_range .text id (fun _ _ => id) fun _ _ => rfl
    exact total.mono fun _ => hasForm_of_admits
  | option t ih =>
    refine (ih ordered).options.mono fun d hd => ?_
    obtain rfl | ⟨x, rfl⟩ := hasForm_of_admits hd
    · exact .inl rfl
    · exact .inr ⟨x, rfl, hd⟩
  | sequence t ih =>
    refine (ih ordered).lists.mono fun d hd => ?_
    obtain ⟨items, rfl⟩ := hasForm_of_admits hd
    exact ⟨items, rfl, hd⟩
  | set held t ih =>
    obtain ⟨-, item⟩ : held = true ∧ t.isOrdered := by simpa [isOrdered] using ordered
    refine (ih item).lists.mono fun d hd => ?_
    obtain ⟨items, rfl⟩ := hasForm_of_admits hd
    exact ⟨items, rfl, hd.1⟩
  | map held k t ihk ih =>
    obtain ⟨⟨-, key⟩, item⟩ : (held = true ∧ k.isOrdered) ∧ t.isOrdered := by
      simpa [isOrdered] using ordered
    refine ((ihk key).maps (ih item)).mono fun d hd => ?_
    obtain ⟨entries, rfl⟩ := hasForm_of_admits hd
    exact ⟨entries, rfl, hd.1⟩

end Leaf

end Companion

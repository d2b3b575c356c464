import Companion.Value.Leaf

/-! The order of data, and collections built by adding one datum after another.

Data added in their order, or added to a hashed collection without repeats, are kept as they come.
-/

set_option autoImplicit false

namespace Companion.Datum

mutual

theorem order_swap (a b : Datum) : order a b = (order b a).swap := by
  -- Data of different forms are in no order, except that absence comes first.
  cases a with
  | integer m => cases b with
    | integer n => exact Std.OrientedOrd.eq_swap
    | _ => rfl
  | bool m => cases b with
    | bool n => exact Std.OrientedOrd.eq_swap
    | _ => rfl
  | char m => cases b with
    | char n => exact Std.OrientedOrd.eq_swap
    | _ => rfl
  | text m => cases b with
    | text n => exact Std.OrientedOrd.eq_swap
    | _ => rfl
  | present d => cases b with
    | present e => exact order_swap d e
    | _ => rfl
  | list ds => cases b with
    | list es => exact orderLists_swap ds es
    | _ => rfl
  | map ds => cases b with
    | map es => exact orderEntries_swap ds es
    | _ => rfl
  | float x => cases b <;> rfl
  | absent => cases b <;> rfl

theorem orderLists_swap (ds es : List Datum) : orderLists ds es = (orderLists es ds).swap := by
  cases ds with
  | nil => cases es <;> rfl
  | cons d ds => cases es with
    | nil => rfl
    | cons e es =>
      rw [orderLists, orderLists, order_swap d e, orderLists_swap ds es, Ordering.swap_then]

theorem orderEntries_swap (ds es : List (Datum × Datum)) :
    orderEntries ds es = (orderEntries es ds).swap := by
  cases ds with
  | nil => cases es <;> rfl
  | cons d ds => cases es with
    | nil => rfl
    | cons e es =>
      obtain ⟨k, d⟩ := d
      obtain ⟨l, e⟩ := e
      rw [orderEntries, orderEntries, order_swap k l, order_swap d e, orderEntries_swap ds es,
        Ordering.swap_then, Ordering.swap_then]

end

theorem order_eq_gt_of_lt {a b : Datum} (h : order a b = .lt) : order b a = .gt := by
  rw [order_swap, h]
  rfl

theorem order_eq_comm {a b : Datum} : order a b = .eq ↔ order b a = .eq := by
  rw [order_swap]
  exact Ordering.swap_eq_eq

theorem eq_of_orderLists {as bs : List Datum}
    (determined : ∀ a ∈ as, ∀ b ∈ bs, order a b = .eq → a = b) (h : orderLists as bs = .eq) :
    as = bs := by
  induction as generalizing bs with
  | nil => cases bs with
    | nil => rfl
    | cons b bs => cases h
  | cons a as ih => cases bs with
    | nil => cases h
    | cons b bs =>
      rw [orderLists, Ordering.then_eq_eq] at h
      rw [determined a (by simp) b (by simp) h.1,
        ih (fun a ha b hb => determined a (by simp [ha]) b (by simp [hb])) h.2]

theorem eq_of_orderEntries {as bs : List (Datum × Datum)}
    (determined : ∀ a ∈ as, ∀ b ∈ bs,
      (order a.1 b.1 = .eq → a.1 = b.1) ∧ (order a.2 b.2 = .eq → a.2 = b.2))
    (h : orderEntries as bs = .eq) : as = bs := by
  induction as generalizing bs with
  | nil => cases bs with
    | nil => rfl
    | cons b bs => cases h
  | cons a as ih => cases bs with
    | nil => cases h
    | cons b bs =>
      rw [orderEntries, Ordering.then_eq_eq, Ordering.then_eq_eq] at h
      obtain ⟨key, item⟩ := determined a (by simp) b (by simp)
      rw [Prod.ext (key h.1.1) (item h.1.2),
        ih (fun a ha b hb => determined a (by simp [ha]) b (by simp [hb])) h.2]

/-! ### Data that can be sorted -/

/-- The order tells apart any two data of a kind, and is transitive on them. -/
structure IsTotalOn (P : Datum → Prop) : Prop where
  eq_of_order : ∀ {a b}, P a → P b → order a b = .eq → a = b
  trans : ∀ {a b c}, P a → P b → P c → order a b = .lt → order b c = .lt → order a c = .lt

variable {P Q : Datum → Prop}

theorem IsTotalOn.mono (total : IsTotalOn P) (inside : ∀ d, Q d → P d) : IsTotalOn Q where
  eq_of_order ha hb := total.eq_of_order (inside _ ha) (inside _ hb)
  trans ha hb hc := total.trans (inside _ ha) (inside _ hb) (inside _ hc)

/-- Data without parts are ordered by a key that tells them apart. -/
theorem isTotalOn_range {α β : Type} [Ord β] [Std.TransOrd β] [Std.LawfulEqOrd β]
    (make : α → Datum) (key : α → β) (injective : ∀ x y, key x = key y → x = y)
    (keyed : ∀ x y, order (make x) (make y) = compare (key x) (key y)) :
    IsTotalOn fun d => ∃ x, d = make x where
  eq_of_order := by
    rintro _ _ ⟨x, rfl⟩ ⟨y, rfl⟩ same
    rw [keyed] at same
    rw [injective x y (Std.LawfulEqOrd.eq_of_compare same)]
  trans := by
    rintro _ _ _ ⟨x, rfl⟩ ⟨y, rfl⟩ ⟨z, rfl⟩ first second
    rw [keyed] at first second ⊢
    exact Std.TransCmp.lt_trans first second

theorem IsTotalOn.options (total : IsTotalOn P) :
    IsTotalOn fun d => d = absent ∨ ∃ x, d = present x ∧ P x where
  eq_of_order := by
    rintro _ _ (rfl | ⟨x, rfl, hx⟩) (rfl | ⟨y, rfl, hy⟩) same
    · rfl
    · cases same
    · cases same
    · rw [total.eq_of_order hx hy same]
  trans := by
    -- Nothing comes before absence.
    rintro _ _ _ (rfl | ⟨x, rfl, hx⟩) (rfl | ⟨y, rfl, hy⟩) (rfl | ⟨z, rfl, hz⟩) first second
    · exact first
    · cases first
    · cases second
    · rfl
    · cases first
    · cases first
    · cases second
    · have below : order x z = .lt := total.trans hx hy hz first second
      exact below

/-- What decides after a first pair of data is asked only where these are equal. -/
theorem IsTotalOn.then_trans (total : IsTotalOn P) {a b c : Datum} (ha : P a) (hb : P b)
    (hc : P c) {left right whole : Ordering}
    (rest : left = .lt → right = .lt → whole = .lt) (first : (order a b).then left = .lt)
    (second : (order b c).then right = .lt) : (order a c).then whole = .lt := by
  rw [Ordering.then_eq_lt] at first second ⊢
  obtain below | ⟨same, left⟩ := first
  · obtain below' | ⟨same', -⟩ := second
    · exact .inl (total.trans ha hb hc below below')
    · exact .inl (total.eq_of_order hb hc same' ▸ below)
  · cases total.eq_of_order ha hb same
    exact second.imp_right fun ⟨same', right⟩ => ⟨same', rest left right⟩

theorem IsTotalOn.orderLists_trans (total : IsTotalOn P) :
    ∀ {as bs cs : List Datum}, (∀ a ∈ as, P a) → (∀ b ∈ bs, P b) → (∀ c ∈ cs, P c) →
      orderLists as bs = .lt → orderLists bs cs = .lt → orderLists as cs = .lt
  | [], _ :: _, _ :: _, _, _, _, _, _ => rfl
  | a :: as, b :: bs, c :: cs, ha, hb, hc, first, second => by
    simp only [List.forall_mem_cons] at ha hb hc
    exact total.then_trans ha.1 hb.1 hc.1 (total.orderLists_trans ha.2 hb.2 hc.2) first second

theorem IsTotalOn.orderEntries_trans (keys : IsTotalOn P) (items : IsTotalOn Q) :
    ∀ {as bs cs : List (Datum × Datum)}, (∀ a ∈ as, P a.1 ∧ Q a.2) →
      (∀ b ∈ bs, P b.1 ∧ Q b.2) → (∀ c ∈ cs, P c.1 ∧ Q c.2) →
      orderEntries as bs = .lt → orderEntries bs cs = .lt → orderEntries as cs = .lt
  | [], _ :: _, _ :: _, _, _, _, _, _ => rfl
  | (k, a) :: as, (l, b) :: bs, (m, c) :: cs, ha, hb, hc, first, second => by
    simp only [List.forall_mem_cons] at ha hb hc
    rw [orderEntries, Ordering.then_assoc] at first second ⊢
    obtain ⟨⟨hk, ha⟩, restA⟩ := ha
    obtain ⟨⟨hl, hb⟩, restB⟩ := hb
    obtain ⟨⟨hm, hc⟩, restC⟩ := hc
    refine keys.then_trans hk hl hm (fun first second => ?_) first second
    exact items.then_trans ha hb hc (keys.orderEntries_trans items restA restB restC) first second

theorem IsTotalOn.lists (total : IsTotalOn P) :
    IsTotalOn fun d => ∃ items, d = list items ∧ ∀ x ∈ items, P x where
  eq_of_order := by
    rintro _ _ ⟨as, rfl, ha⟩ ⟨bs, rfl, hb⟩ same
    rw [eq_of_orderLists (fun a inA b inB => total.eq_of_order (ha a inA) (hb b inB)) same]
  trans := by
    rintro _ _ _ ⟨as, rfl, ha⟩ ⟨bs, rfl, hb⟩ ⟨cs, rfl, hc⟩ first second
    exact total.orderLists_trans ha hb hc first second

theorem IsTotalOn.maps (keys : IsTotalOn P) (items : IsTotalOn Q) :
    IsTotalOn fun d => ∃ entries, d = map entries ∧ ∀ e ∈ entries, P e.1 ∧ Q e.2 where
  eq_of_order := by
    rintro _ _ ⟨as, rfl, ha⟩ ⟨bs, rfl, hb⟩ same
    have determined : ∀ a ∈ as, ∀ b ∈ bs,
        (order a.1 b.1 = .eq → a.1 = b.1) ∧ (order a.2 b.2 = .eq → a.2 = b.2) :=
      fun a inA b inB => ⟨keys.eq_of_order (ha a inA).1 (hb b inB).1,
        items.eq_of_order (ha a inA).2 (hb b inB).2⟩
    rw [eq_of_orderEntries determined same]
  trans := by
    rintro _ _ _ ⟨as, rfl, ha⟩ ⟨bs, rfl, hb⟩ ⟨cs, rfl, hc⟩ first second
    exact keys.orderEntries_trans items ha hb hc first second

/-! ### Collections -/

/-- `a` may stand before `b` in a collection. -/
def MayPrecede (ordered : Bool) (a b : Datum) : Prop :=
  if ordered then order a b = .lt else order a b ≠ .eq

theorem order_of_mayPrecede {ordered : Bool} {a b : Datum} (h : MayPrecede ordered a b) :
    order b a = .gt ∨ (order b a = .lt ∧ ordered = false) := by
  cases ordered with
  | true => exact .inl (order_eq_gt_of_lt h)
  | false =>
    have unequal : order b a ≠ .eq := fun same => h (order_eq_comm.1 same)
    cases same : order b a with
    | gt => exact .inl rfl
    | lt => exact .inr ⟨rfl, rfl⟩
    | eq => exact absurd same unequal

theorem insert_eq_append {ordered : Bool} {d : Datum} {known : List Datum}
    (h : ∀ e ∈ known, MayPrecede ordered e d) : insert ordered d known = known ++ [d] := by
  induction known with
  | nil => rfl
  | cons e known ih =>
    have rest := ih fun e he => h e (List.mem_cons_of_mem _ he)
    -- A hashed collection passes a greater member as well.
    obtain order | ⟨order, rfl⟩ := order_of_mayPrecede (h e List.mem_cons_self) <;>
      simp [insert, order, rest]

theorem insertEntry_eq_append {ordered : Bool} {key item : Datum} {known : List (Datum × Datum)}
    (h : ∀ e ∈ known, MayPrecede ordered e.1 key) :
    insertEntry ordered key item known = known ++ [(key, item)] := by
  induction known with
  | nil => rfl
  | cons e known ih =>
    obtain ⟨k, e⟩ := e
    have rest := ih fun e he => h e (List.mem_cons_of_mem _ he)
    obtain order | ⟨order, rfl⟩ := order_of_mayPrecede (h _ List.mem_cons_self) <;>
      simp [insertEntry, order, rest]

theorem ofMembers_of_pairwise {ordered : Bool} {items : List Datum}
    (h : items.Pairwise (MayPrecede ordered)) : ofMembers ordered items = list items := by
  -- The induction is on what is still to be added, over everything added before.
  suffices added : ∀ known, (known ++ items).Pairwise (MayPrecede ordered) →
      items.foldl (fun known d => insert ordered d known) known = known ++ items by
    rw [ofMembers, added [] h, List.nil_append]
  clear h
  induction items with
  | nil => simp
  | cons d items ih =>
    intro known h
    have before : ∀ e ∈ known, MayPrecede ordered e d := fun e he =>
      (List.pairwise_append.1 h).2.2 e he d List.mem_cons_self
    rw [List.foldl_cons, insert_eq_append before, ih _ (by simpa using h)]
    simp

theorem ofEntries_of_pairwise {ordered : Bool} {entries : List (Datum × Datum)}
    (h : (entries.map Prod.fst).Pairwise (MayPrecede ordered)) :
    ofEntries ordered entries = map entries := by
  suffices added : ∀ known, ((known ++ entries).map Prod.fst).Pairwise (MayPrecede ordered) →
      entries.foldl (fun known e => insertEntry ordered e.1 e.2 known) known =
        known ++ entries from
    congrArg map ((added [] h).trans (List.nil_append entries))
  clear h
  induction entries with
  | nil => simp
  | cons e entries ih =>
    intro known h
    have before : ∀ f ∈ known, MayPrecede ordered f.1 e.1 := fun f hf => by
      rw [List.map_append] at h
      exact (List.pairwise_append.1 h).2.2 f.1 (List.mem_map_of_mem hf) e.1 (by simp)
    rw [List.foldl_cons, insertEntry_eq_append before, ih _ (by simpa using h)]
    simp

end Companion.Datum

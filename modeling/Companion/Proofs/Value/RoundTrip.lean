import Companion.Proofs.Results
import Companion.Proofs.Value.Keys

/-! Values that come back from their encodings.

An option writes what it holds with no mark of its own. So a type and all its parts keep their
values exactly if no option directly holds an option.
-/

set_option autoImplicit false

namespace Companion.Leaf

/-- No option directly holds an option. -/
def HasPlainOptions (t : Leaf) : Prop := ∀ u, option (option u) ∉ t.parts

/-- Reading gives the value. -/
def Returns (t : Leaf) (x : Datum) (w : Value) : Prop := ∃ y, t.decode w = .ok y ∧ t.Same x y

/-- Reading what was written gives the value again. Hashed collections list what they hold as
`arrange` says. -/
def Keeps (arrange : List Value → List Value) (t : Leaf) : Prop :=
  ∀ x, t.Admits x → ∃ y, t.decode (t.encode arrange x) = .ok y ∧ t.Same x y

/-- Reading what was written gives the value again, in whatever order hashed collections list
what they hold. -/
def RoundTrips (t : Leaf) : Prop :=
  ∀ arrange, (∀ values, (arrange values).Perm values) → t.Keeps arrange

/-- No two values are written alike. -/
def Separates (t : Leaf) : Prop :=
  ∀ arrange arrange', (∀ values, (arrange values).Perm values) →
    (∀ values, (arrange' values).Perm values) → ∀ x y, t.Admits x → t.Admits y →
    t.encode arrange x = t.encode arrange' y → t.Same x y

variable {arrange : List Value → List Value}

/-! ### One value -/

theorem keeps_integer (signed : Bool) (width : IntegerWidth) :
    (integer signed width).Keeps arrange := by
  intro x hx
  obtain ⟨n, rfl⟩ := hasForm_of_admits hx
  obtain ⟨least, greatest⟩ := hx
  have inside : decodeInteger signed width n = .ok (.integer n) := by
    simp [decodeInteger, least, greatest]
  refine ⟨.integer n, ?_, rfl⟩
  cases signed with
  | true =>
    have within : -2 ^ 63 ≤ (range true width).1 ∧ (range true width).2 < 2 ^ 63 := by
      cases width <;> decide
    have word : (Int64.ofInt n).toInt = n := Int64.toInt_ofInt_of_le (by omega) (by omega)
    rw [encode, decode, word, inside]
  | false =>
    have within : 0 ≤ (range false width).1 ∧ (range false width).2 < 2 ^ 64 := by
      cases width <;> decide
    have word : ((UInt64.ofNat n.toNat).toNat : Int) = n := by
      rw [UInt64.toNat_ofNat_of_lt' (by simp only [UInt64.size]; omega)]
      omega
    rw [encode, decode, word, inside]

theorem keeps_float (wide : Bool) : (float wide).Keeps arrange := by
  intro x hx
  obtain ⟨x, rfl⟩ := hasForm_of_admits hx
  have kept : decodeFloat wide x = .float x := by
    cases wide with
    | true => rfl
    | false => simpa [decodeFloat, Admits] using hx
  exact ⟨_, rfl, kept.symm⟩

theorem keeps_bool : bool.Keeps arrange := by
  intro x hx
  obtain ⟨b, rfl⟩ := hasForm_of_admits hx
  exact ⟨.bool b, rfl, rfl⟩

theorem keeps_text : text.Keeps arrange := by
  intro x hx
  obtain ⟨s, rfl⟩ := hasForm_of_admits hx
  exact ⟨.text s, rfl, rfl⟩

theorem keeps_char : char.Keeps arrange := by
  intro x hx
  obtain ⟨c, rfl⟩ := hasForm_of_admits hx
  exact ⟨.char c, by simp [encode, decode], rfl⟩

/-- Only an option is written as nothing. -/
theorem encode_ne_null {t : Leaf} {x : Datum} (h : ∀ u, t ≠ option u) (hx : t.Admits x) :
    t.encode arrange x ≠ .null := by
  have form := hasForm_of_admits hx
  cases t with
  | option u => exact absurd rfl (h u)
  | integer signed =>
    obtain ⟨n, rfl⟩ := form
    cases signed <;> exact nofun
  | _ =>
    obtain ⟨_, rfl⟩ := form
    exact nofun

theorem decode_option_of_ne_null {t : Leaf} {v : Value} (h : v ≠ .null) :
    (option t).decode v = .present <$> t.decode v := by
  cases v with
  | null => exact absurd rfl h
  | _ => rfl

theorem returns_present {t : Leaf} {x : Datum} {w : Value} (something : w ≠ .null)
    (returns : t.Returns x w) : (option t).Returns (.present x) w := by
  obtain ⟨y, decoded, same⟩ := returns
  refine ⟨.present y, ?_, same⟩
  rw [decode_option_of_ne_null something, decoded]
  rfl

theorem keeps_option {t : Leaf} (single : ∀ u, t ≠ option u) (keeps : t.Keeps arrange) :
    (option t).Keeps arrange := by
  intro x hx
  obtain rfl | ⟨x, rfl⟩ := hasForm_of_admits hx
  · exact ⟨.absent, rfl, rfl⟩
  · -- What is held is written as something, so that reading does not take it for absence.
    have written : t.encode arrange x ≠ .null := encode_ne_null single hx
    exact returns_present written (keeps x hx)

/-! ### Many values -/

variable {α : Type}

/-- What a collection is written as lists its content in some arrangement. -/
theorem exists_rearranged (perm : ∀ values, (arrange values).Perm values) (ordered : Bool)
    (write : α → Value) (xs : List α) :
    ∃ ys, Rearranged ordered xs ys ∧
      (if ordered then xs.map write else arrange (xs.map write)) = ys.map write := by
  cases ordered with
  | true => exact ⟨xs, .refl true xs, rfl⟩
  | false =>
    have both : Relation.Comp (· = List.map write ·) List.Perm (arrange (xs.map write)) xs := by
      rw [List.eq_map_comp_perm]
      exact perm _
    obtain ⟨ys, written, moved⟩ := both
    exact ⟨ys, moved.symm, written⟩

theorem pairwise_mayPrecede {t : Leaf} {ordered : Bool} {ds : List Datum} (key : t.isOrdered)
    (admitted : ∀ d ∈ ds, t.Admits d) (listed : Datum.AreListed ordered ds) :
    ds.Pairwise (Datum.MayPrecede ordered) := by
  cases ordered with
  | true => exact listed
  | false =>
    refine List.Pairwise.imp_of_mem (fun inA inB differ same => ?_) listed
    exact differ ((isTotalOn_admits key).eq_of_order (admitted _ inA) (admitted _ inB) same)

theorem returns_sequence {t : Leaf} {items : List Datum} {values : List Value}
    (each : List.Forall₂ t.Returns items values) :
    (sequence t).Returns (.list items) (.list values) := by
  obtain ⟨ys, decoded, agree⟩ := exists_mapM_of_forall₂ each
  refine ⟨.list ys, ?_, agree⟩
  rw [decode, decoded]
  rfl

/-- A set comes back from its members, in whatever order they are listed. -/
theorem returns_set {ordered : Bool} {t : Leaf} (key : t.isOrdered) {items members : List Datum}
    {values : List Value} (admitted : ∀ d ∈ items, t.Admits d)
    (listed : Datum.AreListed ordered items) (moved : Rearranged ordered items members)
    (each : List.Forall₂ t.Returns members values) :
    (set ordered t).Returns (.list items) (.list values) := by
  have inside : ∀ d ∈ members, t.Admits d := fun d hd => admitted d (moved.perm.mem_iff.2 hd)
  obtain ⟨ys, decoded, agree⟩ := exists_mapM_of_forall₂ each
  -- Members come back as they were, not only the same, so that they are still told apart.
  obtain rfl := eq_of_forall₂ (eq_of_same key) agree
  have rising := pairwise_mayPrecede key inside (listed.rearranged moved)
  refine ⟨.list members, ?_, moved⟩
  rw [decode, decoded, ← Datum.ofMembers_of_pairwise rising]
  rfl

/-- The pair of a key and an item, each of which comes back. -/
def EntryReturns (k t : Leaf) (e : Datum × Datum) (w : Value) : Prop :=
  ∃ key item, w = .list [key, item] ∧ k.Returns e.1 key ∧ t.Returns e.2 item

theorem exists_decodeEntry {k t : Leaf} (key : k.isOrdered) {e : Datum × Datum} {w : Value}
    (returns : EntryReturns k t e w) :
    ∃ f, decodeEntry k.decode t.decode w = .ok f ∧ e.1 = f.1 ∧ t.Same e.2 f.2 := by
  obtain ⟨_, _, rfl, ⟨l, decodedKey, sameKey⟩, ⟨d, decoded, same⟩⟩ := returns
  refine ⟨(l, d), ?_, eq_of_same key sameKey, same⟩
  simp only [decodeEntry, pair?, decodedKey, decoded]
  rfl

/-- A map comes back from its entries, in whatever order they are listed. -/
theorem returns_map {ordered : Bool} {k t : Leaf} (key : k.isOrdered)
    {entries held : List (Datum × Datum)} {values : List Value}
    (admitted : ∀ e ∈ entries, k.Admits e.1)
    (listed : Datum.AreListed ordered (entries.map Prod.fst))
    (moved : Rearranged ordered entries held)
    (each : List.Forall₂ (EntryReturns k t) held values) :
    (map ordered k t).Returns (.map entries) (.list values) := by
  obtain ⟨ys, decoded, agree⟩ :=
    exists_mapM_of_forall₂ (each.imp fun _ _ => exists_decodeEntry key)
  have rising : (ys.map Prod.fst).Pairwise (Datum.MayPrecede ordered) := by
    rw [← Datum.EntriesAgree.keys agree]
    refine pairwise_mayPrecede key ?_ (listed.rearranged (moved.map Prod.fst))
    exact List.forall_mem_map.2 fun e he => admitted e (moved.perm.mem_iff.2 he)
  refine ⟨.map ys, ?_, held, moved, agree⟩
  rw [decode, decoded, ← Datum.ofEntries_of_pairwise rising]
  rfl

theorem keeps_sequence {t : Leaf} (keeps : t.Keeps arrange) : (sequence t).Keeps arrange := by
  intro x hx
  obtain ⟨items, rfl⟩ := hasForm_of_admits hx
  apply returns_sequence
  rw [List.forall₂_map_right_iff, List.forall₂_same]
  exact fun d inside => keeps d (hx d inside)

theorem keeps_set (perm : ∀ values, (arrange values).Perm values) {ordered : Bool} {t : Leaf}
    (key : t.isOrdered) (keeps : t.Keeps arrange) : (set ordered t).Keeps arrange := by
  intro x hx
  obtain ⟨items, rfl⟩ := hasForm_of_admits hx
  obtain ⟨admitted, listed⟩ := hx
  obtain ⟨members, moved, written⟩ := exists_rearranged perm ordered (t.encode arrange) items
  have each : List.Forall₂ t.Returns members (members.map (t.encode arrange)) := by
    rw [List.forall₂_map_right_iff, List.forall₂_same]
    exact fun d hd => keeps d (admitted d (moved.perm.mem_iff.2 hd))
  rw [encode, written]
  exact returns_set key admitted listed moved each

theorem keeps_map (perm : ∀ values, (arrange values).Perm values) {ordered : Bool} {k t : Leaf}
    (key : k.isOrdered) (keepsKey : k.Keeps arrange) (keeps : t.Keeps arrange) :
    (map ordered k t).Keeps arrange := by
  intro x hx
  obtain ⟨entries, rfl⟩ := hasForm_of_admits hx
  obtain ⟨admitted, listed⟩ := hx
  let write (e : Datum × Datum) : Value :=
    .list [k.encode arrange e.1, t.encode arrange e.2]
  obtain ⟨held, moved, written⟩ := exists_rearranged perm ordered write entries
  have each : List.Forall₂ (EntryReturns k t) held (held.map write) := by
    rw [List.forall₂_map_right_iff, List.forall₂_same]
    intro e he
    obtain ⟨hk, ht⟩ := admitted e (moved.perm.mem_iff.2 he)
    exact ⟨_, _, rfl, keepsKey e.1 hk, keeps e.2 ht⟩
  have keys : ∀ e ∈ entries, k.Admits e.1 := fun e he => (admitted e he).1
  rw [encode, written]
  exact returns_map key keys listed moved each

/-! ### Round trips -/

theorem keeps_of_parts (perm : ∀ values, (arrange values).Perm values) : ∀ {t : Leaf},
    (∀ u ∈ t.parts, u.isFormed ∧ ∀ v, u ≠ option (option v)) → t.Keeps arrange
  | integer signed width, _ => keeps_integer signed width
  | float wide, _ => keeps_float wide
  | bool, _ => keeps_bool
  | char, _ => keeps_char
  | text, _ => keeps_text
  | option t, good => by
    obtain ⟨whole, inner⟩ := List.forall_mem_cons.1 good
    exact keeps_option (fun u same => whole.2 u (by rw [same])) (keeps_of_parts perm inner)
  | sequence t, good => keeps_sequence (keeps_of_parts perm (List.forall_mem_cons.1 good).2)
  | set ordered t, good => by
    obtain ⟨whole, inner⟩ := List.forall_mem_cons.1 good
    exact keeps_set perm (isFormed_set ordered t ▸ whole.1) (keeps_of_parts perm inner)
  | map ordered k t, good => by
    obtain ⟨whole, inner⟩ := List.forall_mem_cons.1 good
    obtain ⟨innerKey, innerItem⟩ := List.forall_mem_append.1 inner
    exact keeps_map perm (isFormed_map ordered k t ▸ whole.1) (keeps_of_parts perm innerKey)
      (keeps_of_parts perm innerItem)

/-- A type that gives its values back writes no two of them alike. -/
theorem RoundTrips.separates {t : Leaf} (h : t.RoundTrips) : t.Separates := by
  intro arrange arrange' perm perm' x y hx hy alike
  obtain ⟨x', readX, sameX⟩ := h arrange perm x hx
  obtain ⟨y', readY, sameY⟩ := h arrange' perm' y hy
  rw [alike, readY] at readX
  cases readX
  exact same_trans sameX (same_symm sameY)

/-- An option that holds nothing and no option at all are both written as nothing. -/
theorem not_separates_option_option (t : Leaf) : ¬ (option (option t)).Separates := by
  intro separates
  have same : (option (option t)).Same .absent (.present .absent) :=
    separates id id (fun _ => .refl _) (fun _ => .refl _) .absent (.present .absent) trivial trivial
      rfl
  cases same

/-- Types with an encoding are accepted whatever they hold. But a type and all it is made of give
their values back, and write no two alike, exactly if no option directly holds an option. -/
theorem roundTrips_iff_hasPlainOptions (isDeclared : TypeRef → Bool) {T : TypeRef} {t : Leaf}
    (h : ofType? T = some t) :
    T.missingLeaf? isDeclared = none ∧
      ((∀ u ∈ t.parts, u.RoundTrips) ↔ t.HasPlainOptions) ∧
      ((∀ u ∈ t.parts, u.Separates) ↔ t.HasPlainOptions) := by
  obtain ⟨accepted, formed⟩ := accepted_of_ofType? isDeclared h
  have kept (plain : t.HasPlainOptions) : ∀ u ∈ t.parts, u.RoundTrips := by
    intro u part arrange perm
    have inside := parts_subset part
    refine keeps_of_parts perm fun v inner => ⟨formed v (inside inner), ?_⟩
    rintro w rfl
    exact plain w (inside inner)
  -- Two values of a nested option that are written alike are lost at the option itself.
  have lost (separates : ∀ u ∈ t.parts, u.Separates) : t.HasPlainOptions :=
    fun u nested => not_separates_option_option u (separates _ nested)
  refine ⟨accepted, ⟨fun roundTrips => ?_, kept⟩, ⟨lost, fun plain u part => ?_⟩⟩
  · exact lost fun u part => (roundTrips u part).separates
  · exact (kept plain u part).separates

/-- A map to optional texts keeps its values. An optional optional number is accepted and does
not. -/
theorem roundTrips_iff_optional :
    (ofType? (.path "HashMap" [.path "i64" [], .path "Option" [.path "String" []]]) =
        some (map false (integer true .bits64) (option text)) ∧
      (map false (integer true .bits64) (option text)).RoundTrips) ∧
    (ofType? (.path "Option" [.path "Option" [.path "i64" []]]) =
        some (option (option (integer true .bits64))) ∧
      TypeRef.missingLeaf? (fun _ => false) (.path "Option" [.path "Option" [.path "i64" []]]) =
        none ∧
      ¬ ∀ u ∈ (option (option (integer true .bits64))).parts, u.RoundTrips) := by
  have single : ofType? (.path "HashMap" [.path "i64" [], .path "Option" [.path "String" []]]) =
      some (map false (integer true .bits64) (option text)) := by decide
  have double : ofType? (.path "Option" [.path "Option" [.path "i64" []]]) =
      some (option (option (integer true .bits64))) := by decide
  have kept := roundTrips_iff_hasPlainOptions (fun _ => false) single
  have lost := roundTrips_iff_hasPlainOptions (fun _ => false) double
  refine ⟨⟨single, kept.2.1.2 (fun u => ?_) _ List.mem_cons_self⟩, double, lost.1, fun all => ?_⟩
  · simp [parts]
  · exact lost.2.1.1 all (integer true .bits64) List.mem_cons_self

end Companion.Leaf

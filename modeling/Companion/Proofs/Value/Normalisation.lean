import Companion.Proofs.Value.Insertion
import Companion.Proofs.Value.RoundTrip

/-! Values that were read and are written again.

What is read need not be an encoding: integers of the other sign and repeated members are read as
well. But whatever is read is written as something that reads as the same again. An option that
was read holds what was not null, so that writing does not take it for absence.
-/

set_option autoImplicit false

namespace Companion.Leaf

/-- Whether a datum of the type may be written as a value. Each hashed collection is listed in any
order, independently of others. -/
def Writes : Leaf → Datum → Value → Prop
  | option t, .present d, w => t.Writes d w
  | sequence t, .list items, .list values => List.Forall₂ t.Writes items values
  | set ordered t, .list items, .list values =>
    ∃ members, Rearranged ordered items members ∧ List.Forall₂ t.Writes members values
  | map ordered k t, .map entries, .list values =>
    ∃ held, Rearranged ordered entries held ∧
      List.Forall₂ (fun e w => ∃ key item, w = .list [key, item] ∧ k.Writes e.1 key ∧
        t.Writes e.2 item) held values
  | t, d, w => w = t.encode id d

/-- No option of the datum holds the absence of another. -/
def IsSettled : Leaf → Datum → Prop
  | option t, .present d => d ≠ .absent ∧ t.IsSettled d
  | sequence t, .list items => ∀ d ∈ items, t.IsSettled d
  | set _ t, .list items => ∀ d ∈ items, t.IsSettled d
  | map _ k t, .map entries => ∀ e ∈ entries, k.IsSettled e.1 ∧ t.IsSettled e.2
  | _, _ => True

/-- Whether a datum is one that reading gives. -/
def IsRead (t : Leaf) (x : Datum) : Prop := t.Admits x ∧ t.IsSettled x

/-- Whether a type sorts or hashes what it can, and its floats come back from wider ones. -/
def IsReadable (t : Leaf) : Prop :=
  t.isFormed ∧ (t = float false → ∀ x : Float32, x.toFloat.toFloat32 = x)

variable {arrange : List Value → List Value}

/-- However hashed collections list what they hold, encoding is a way to write. -/
theorem writes_encode (perm : ∀ values, (arrange values).Perm values) {t : Leaf} {x : Datum}
    (hx : t.Admits x) : t.Writes x (t.encode arrange x) := by
  induction t generalizing x with
  | integer signed width => cases signed <;> cases x <;> rfl
  | option t ih => cases x with
    | present d => exact ih hx
    | _ => rfl
  | sequence t ih => cases x with
    | list items =>
      refine List.forall₂_map_right_iff.2 (List.forall₂_same.2 fun d inside => ?_)
      exact ih (hx d inside)
    | _ => rfl
  | set ordered t ih => cases x with
    | list items =>
      obtain ⟨members, moved, written⟩ := exists_rearranged perm ordered (t.encode arrange) items
      rw [encode, written]
      refine ⟨members, moved, List.forall₂_map_right_iff.2 (List.forall₂_same.2 fun d hd => ?_)⟩
      exact ih (hx.1 d (moved.perm.mem_iff.2 hd))
    | _ => rfl
  | map ordered k t ihk ih => cases x with
    | map entries =>
      obtain ⟨held, moved, written⟩ := exists_rearranged perm ordered
        (fun e : Datum × Datum => Value.list [k.encode arrange e.1, t.encode arrange e.2]) entries
      rw [encode, written]
      refine ⟨held, moved, List.forall₂_map_right_iff.2 (List.forall₂_same.2 fun e he => ?_)⟩
      obtain ⟨hk, ht⟩ := hx.1 e (moved.perm.mem_iff.2 he)
      exact ⟨_, _, rfl, ihk hk, ih ht⟩
    | _ => rfl
  | _ => cases x <;> rfl

/-! ### What was read -/

theorem decodeEntry_eq_ok {k t : Leaf} {w : Value} {e : Datum × Datum}
    (read : decodeEntry k.decode t.decode w = .ok e) :
    ∃ key item, k.decode key = .ok e.1 ∧ t.decode item = .ok e.2 := by
  unfold decodeEntry at read
  split at read
  case h_1 key item _ =>
    obtain ⟨l, readKey, rest⟩ := bind_eq_ok.1 read
    obtain ⟨d, readItem, same⟩ := bind_eq_ok.1 rest
    cases same
    exact ⟨key, item, readKey, readItem⟩
  case h_2 => cases read

/-- Only null reads as absence. -/
theorem eq_null_of_decode {t : Leaf} {v : Value} (read : t.decode v = .ok .absent) :
    v = .null := by
  unfold decode at read
  split at read
  case h_1 | h_2 | h_3 | h_4 | h_5 => grind [decodeInteger, decodeFloat]
  case h_6 =>
    split at read
    · rfl
    · obtain ⟨_, -, same⟩ := map_eq_ok.1 read
      cases same
  all_goals
    split at read
    · obtain ⟨_, -, same⟩ := map_eq_ok.1 read
      cases same
    · cases read

theorem isRead_ofMembers {t : Leaf} (key : t.isOrdered) (ordered : Bool) {items : List Datum}
    (each : ∀ d ∈ items, t.IsRead d) : (set ordered t).IsRead (Datum.ofMembers ordered items) := by
  have total : Datum.IsTotalOn t.IsRead := (isTotalOn_admits key).mono fun _ => And.left
  obtain ⟨known, made, members, listed⟩ := Datum.exists_ofMembers ordered total each
  rw [made]
  exact ⟨⟨fun d inside => (members d inside).1, Datum.areListed_of_pairwise listed⟩,
    fun d inside => (members d inside).2⟩

theorem isRead_ofEntries {k t : Leaf} (key : k.isOrdered) (ordered : Bool)
    {entries : List (Datum × Datum)} (each : ∀ e ∈ entries, k.IsRead e.1 ∧ t.IsRead e.2) :
    (map ordered k t).IsRead (Datum.ofEntries ordered entries) := by
  have total : Datum.IsTotalOn k.IsRead := (isTotalOn_admits key).mono fun _ => And.left
  obtain ⟨known, made, held, listed⟩ := Datum.exists_ofEntries ordered total each
  rw [made]
  exact ⟨⟨fun e inside => ⟨(held e inside).1.1, (held e inside).2.1⟩,
    Datum.areListed_of_pairwise listed⟩,
    fun e inside => ⟨(held e inside).1.2, (held e inside).2.2⟩⟩

theorem isRead_of_decode {t : Leaf} (good : ∀ u ∈ t.parts, u.IsReadable) {v : Value} {x : Datum}
    (read : t.decode v = .ok x) : t.IsRead x := by
  induction t generalizing v x with
  | integer signed width =>
    unfold decode at read
    grind [decodeInteger, IsRead, Admits, IsSettled]
  | float wide =>
    obtain ⟨y, rfl⟩ : ∃ y, decodeFloat wide y = x := by
      unfold decode at read
      grind
    refine ⟨?_, trivial⟩
    cases wide with
    | true => exact .inl rfl
    | false =>
      have widening := (good _ (List.mem_singleton_self _)).2 rfl
      exact .inr (congrArg Float32.toFloat (widening y.toFloat32))
  | bool | char | text =>
    unfold decode at read
    grind [IsRead, Admits, IsSettled]
  | option t ih =>
    obtain rfl | something := eq_or_ne v .null
    · cases read
      exact ⟨trivial, trivial⟩
    · rw [decode_option_of_ne_null something] at read
      obtain ⟨d, inner, rfl⟩ := map_eq_ok.1 read
      obtain ⟨admitted, settled⟩ := ih (List.forall_mem_cons.1 good).2 inner
      refine ⟨admitted, ?_, settled⟩
      rintro rfl
      exact something (eq_null_of_decode inner)
  | sequence t ih => cases v with
    | list values =>
      obtain ⟨items, inner, rfl⟩ := map_eq_ok.1 read
      have each : ∀ d ∈ items, t.IsRead d := fun d inside => by
        obtain ⟨w, -, read⟩ := exists_of_mem_mapM inner inside
        exact ih (List.forall_mem_cons.1 good).2 read
      exact ⟨fun d inside => (each d inside).1, fun d inside => (each d inside).2⟩
    | _ => cases read
  | set ordered t ih => cases v with
    | list values =>
      obtain ⟨items, inner, rfl⟩ := map_eq_ok.1 read
      obtain ⟨whole, part⟩ := List.forall_mem_cons.1 good
      have each : ∀ d ∈ items, t.IsRead d := fun d inside => by
        obtain ⟨w, -, read⟩ := exists_of_mem_mapM inner inside
        exact ih part read
      exact isRead_ofMembers (isFormed_set ordered t ▸ whole.1) ordered each
    | _ => cases read
  | map ordered k t ihk ih => cases v with
    | list values =>
      obtain ⟨entries, inner, rfl⟩ := map_eq_ok.1 read
      obtain ⟨whole, parts⟩ := List.forall_mem_cons.1 good
      obtain ⟨partsKey, partsItem⟩ := List.forall_mem_append.1 parts
      have each : ∀ e ∈ entries, k.IsRead e.1 ∧ t.IsRead e.2 := fun e inside => by
        obtain ⟨w, -, read⟩ := exists_of_mem_mapM inner inside
        obtain ⟨key, item, readKey, readItem⟩ := decodeEntry_eq_ok read
        exact ⟨ihk partsKey readKey, ih partsItem readItem⟩
      exact isRead_ofEntries (isFormed_map ordered k t ▸ whole.1) ordered each
    | _ => cases read

/-! ### Writing what was read -/

/-- What is settled is written as null only if it is absent. -/
theorem ne_null_of_writes {t : Leaf} {x : Datum} {w : Value} (known : t.IsRead x)
    (something : x ≠ .absent) (written : t.Writes x w) : w ≠ .null := by
  obtain ⟨admitted, settled⟩ := known
  induction t generalizing x w with
  | option t ih =>
    obtain rfl | ⟨d, rfl⟩ := hasForm_of_admits admitted
    · exact absurd rfl something
    · exact ih settled.1 written admitted settled.2
  | sequence t | set ordered t | map ordered k t =>
    obtain ⟨_, rfl⟩ := hasForm_of_admits admitted
    rintro rfl
    cases written
  | _ =>
    cases written
    exact encode_ne_null nofun admitted

theorem forall₂_of_writes {α : Type} {known : α → Prop} {writes returns : α → Value → Prop}
    {held : List α} {values : List Value} (each : ∀ x ∈ held, known x)
    (written : List.Forall₂ writes held values)
    (comesBack : ∀ {x w}, known x → writes x w → returns x w) :
    List.Forall₂ returns held values :=
  ((List.forall₂_and_left _ _).2 ⟨each, written⟩).imp fun _ _ both => comesBack both.1 both.2

/-- However it is written, what was read reads as the same again. -/
theorem returns_of_writes {t : Leaf} (formed : ∀ u ∈ t.parts, u.isFormed) {x : Datum} {w : Value}
    (known : t.IsRead x) (written : t.Writes x w) : t.Returns x w := by
  induction t generalizing x w with
  -- What has no parts is written as it is encoded.
  | integer signed width =>
    cases written
    exact keeps_integer signed width x known.1
  | float wide =>
    cases written
    exact keeps_float wide x known.1
  | bool =>
    cases written
    exact keeps_bool x known.1
  | char =>
    cases written
    exact keeps_char x known.1
  | text =>
    cases written
    exact keeps_text x known.1
  | option t ih =>
    obtain rfl | ⟨d, rfl⟩ := hasForm_of_admits known.1
    · cases written
      exact ⟨.absent, rfl, rfl⟩
    · have held : t.IsRead d := ⟨known.1, known.2.2⟩
      have something := ne_null_of_writes held known.2.1 written
      exact returns_present something (ih (List.forall_mem_cons.1 formed).2 held written)
  | sequence t ih =>
    obtain ⟨items, rfl⟩ := hasForm_of_admits known.1
    cases w with
    | list values =>
      have each : ∀ d ∈ items, t.IsRead d := fun d hd => ⟨known.1 d hd, known.2 d hd⟩
      exact returns_sequence (forall₂_of_writes each written (ih (List.forall_mem_cons.1 formed).2))
    | _ => cases written
  | set ordered t ih =>
    obtain ⟨items, rfl⟩ := hasForm_of_admits known.1
    obtain ⟨⟨admitted, listed⟩, settled⟩ := known
    cases w with
    | list values =>
      obtain ⟨whole, inner⟩ := List.forall_mem_cons.1 formed
      obtain ⟨members, moved, written⟩ := written
      have each : ∀ d ∈ members, t.IsRead d := fun d hd =>
        have old := moved.perm.mem_iff.2 hd
        ⟨admitted d old, settled d old⟩
      exact returns_set (isFormed_set ordered t ▸ whole) admitted listed moved
        (forall₂_of_writes each written (ih inner))
    | _ => cases written
  | map ordered k t ihk ih =>
    obtain ⟨entries, rfl⟩ := hasForm_of_admits known.1
    obtain ⟨⟨admitted, listed⟩, settled⟩ := known
    cases w with
    | list values =>
      obtain ⟨whole, inner⟩ := List.forall_mem_cons.1 formed
      obtain ⟨innerKey, innerItem⟩ := List.forall_mem_append.1 inner
      obtain ⟨held, moved, written⟩ := written
      have each : ∀ e ∈ held, k.IsRead e.1 ∧ t.IsRead e.2 := fun e he =>
        have old := moved.perm.mem_iff.2 he
        ⟨⟨(admitted e old).1, (settled e old).1⟩, (admitted e old).2, (settled e old).2⟩
      refine returns_map (isFormed_map ordered k t ▸ whole) (fun e he => (admitted e he).1)
        listed moved (forall₂_of_writes each written ?_)
      rintro e _ known ⟨key, item, rfl, writtenKey, writtenItem⟩
      exact ⟨key, item, rfl, ihk innerKey known.1 writtenKey, ih innerItem known.2 writtenItem⟩
    | _ => cases written

/-- Reading normalises. Whatever was read, be it an encoding or not, encoding writes, and however
it is written it reads as the same again. -/
theorem decode_normalises {T : TypeRef} {t : Leaf} (h : ofType? T = some t)
    (widening : float false ∈ t.parts → ∀ x : Float32, x.toFloat.toFloat32 = x) {v : Value}
    {x : Datum} (read : t.decode v = .ok x) :
    (∀ arrange : List Value → List Value, (∀ values, (arrange values).Perm values) →
      t.Writes x (t.encode arrange x)) ∧
    ∀ w, t.Writes x w → ∃ y, t.decode w = .ok y ∧ t.Same x y := by
  obtain ⟨-, formed⟩ := accepted_of_ofType? (fun _ => false) h
  have good : ∀ u ∈ t.parts, u.IsReadable := fun u part =>
    ⟨formed u part, fun narrow => widening (narrow ▸ part)⟩
  have known := isRead_of_decode good read
  exact ⟨fun arrange perm => writes_encode perm known.1,
    fun w written => returns_of_writes formed known written⟩

/-- A key is read from an integer of the other sign, and twice. What was read for it last is kept
in whatever order the map is listed. -/
theorem decode_normalises_counts :
    ∃ t x y,
      ofType? (.path "HashMap" [.path "u8" [], .path "Option" [.path "Option" [.path "i64" []]]]) =
        some t ∧
      t.decode (.list [.list [.integer 1, .null], .list [.integer 2, .null],
        .list [.unsigned 1, .unsigned 7]]) = .ok x ∧
      t.decode (.list [.list [.unsigned 2, .null], .list [.unsigned 1, .integer 7]]) = .ok y ∧
      t.Same x y := by
  let t : Leaf := map false (integer false .bits8) (option (option (integer true .bits64)))
  have type : ofType? (.path "HashMap" [.path "u8" [],
      .path "Option" [.path "Option" [.path "i64" []]]]) = some t := by decide
  let x : Datum := .map [(.integer 1, .present (.present (.integer 7))), (.integer 2, .absent)]
  have read : t.decode (.list [.list [.integer 1, .null], .list [.integer 2, .null],
      .list [.unsigned 1, .unsigned 7]]) = .ok x := by rfl
  have wide : float false ∉ t.parts := by decide
  have written : t.Writes x
      (.list [.list [.unsigned 2, .null], .list [.unsigned 1, .integer 7]]) :=
    ⟨[(.integer 2, .absent), (.integer 1, .present (.present (.integer 7)))], .swap _ _ _,
      .cons ⟨_, _, rfl, rfl, rfl⟩ (.cons ⟨_, _, rfl, rfl, rfl⟩ .nil)⟩
  obtain ⟨y, again, same⟩ := (decode_normalises type (fun narrow => absurd narrow wide) read).2 _
    written
  exact ⟨t, x, y, type, read, again, same⟩

end Companion.Leaf

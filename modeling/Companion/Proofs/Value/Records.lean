import Companion.Proofs.Results
import Companion.Proofs.Text.Dictionary
import Companion.Value.Decoder
import Mathlib.Data.List.Nodup

/-! Readers of records, over any sequence of calls.

Every call is answered from the entry of its name alone, whatever was asked before it, and a reader
ends well if every entry was asked for. Which entries were is also what flags beside the entries
say, if each call raises the flag of its entry in place.
-/

set_option autoImplicit false

namespace Companion.RecordReader

variable {α : Type} {type name : String} {entries : List (String × Value)}

/-! ### Repeated names -/

/-- The first of the names that repeats an earlier one. -/
def IsFirstRepeated (names : List String) (name : String) : Prop :=
  ∃ before after, names = before ++ name :: after ∧ before.Nodup ∧ name ∈ before

variable {names : List String}

theorem IsFirstRepeated.not_nodup (repeated : IsFirstRepeated names name) : ¬ names.Nodup := by
  obtain ⟨before, after, rfl, -, earlier⟩ := repeated
  intro apart
  exact List.disjoint_of_nodup_append apart earlier List.mem_cons_self

theorem IsFirstRepeated.eq {other : String} (repeated : IsFirstRepeated names name)
    (repeated' : IsFirstRepeated names other) : name = other := by
  obtain ⟨before, after, rfl, apart, earlier⟩ := repeated
  obtain ⟨before', after', same, apart', earlier'⟩ := repeated'
  -- Whichever stands further on would have the other in front of it, and so a repetition.
  rcases List.append_eq_append_iff.mp same with ⟨more, rfl, rest⟩ | ⟨more, rfl, rest⟩
  · cases more with
    | nil => exact (List.cons.inj rest).1
    | cons first more =>
      obtain ⟨rfl, -⟩ := List.cons.inj rest
      exact absurd List.mem_cons_self (List.disjoint_of_nodup_append apart' earlier)
  · cases more with
    | nil => exact (List.cons.inj rest).1.symm
    | cons first more =>
      obtain ⟨rfl, -⟩ := List.cons.inj rest
      exact absurd List.mem_cons_self (List.disjoint_of_nodup_append apart earlier')

/-- The names seen, in the order in which they were, come before those to look at. -/
theorem firstRepeated?_spec {seen : List String} (apart : seen.reverse.Nodup) :
    match firstRepeated? seen names with
    | some name => IsFirstRepeated (seen.reverse ++ names) name
    | none => (seen.reverse ++ names).Nodup := by
  induction names generalizing seen with
  | nil => simpa [firstRepeated?] using apart
  | cons first others ih =>
    by_cases known : first ∈ seen
    · have found : firstRepeated? seen (first :: others) = some first := by
        simp [firstRepeated?, known]
      rw [found]
      exact ⟨seen.reverse, others, rfl, apart, List.mem_reverse.mpr known⟩
    · have apart' : (first :: seen).reverse.Nodup := by
        rw [List.reverse_cons, ← List.concat_eq_append]
        exact List.Nodup.concat (by simpa using known) apart
      have later := ih apart'
      rw [List.reverse_cons, List.append_assoc] at later
      simpa [firstRepeated?, known] using later

theorem firstRepeated?_cases (names : List String) :
    (∃ name, firstRepeated? [] names = some name ∧ IsFirstRepeated names name) ∨
      firstRepeated? [] names = none ∧ names.Nodup := by
  have spec : match firstRepeated? [] names with
      | some name => IsFirstRepeated names name
      | none => names.Nodup := firstRepeated?_spec List.nodup_nil
  cases found : firstRepeated? [] names with
  | some name => exact .inl ⟨name, rfl, by rwa [found] at spec⟩
  | none => exact .inr ⟨rfl, by rwa [found] at spec⟩

/-- A reader is there if no name is repeated. -/
theorem ofValue_eq_ok_iff {r : RecordReader} :
    ofValue type (.record entries) = .ok r ↔
      (entries.map Prod.fst).Nodup ∧ r = ⟨type, entries, []⟩ := by
  rcases firstRepeated?_cases (entries.map Prod.fst) with ⟨name, found, repeated⟩ | ⟨found, apart⟩
  · simp [ofValue, found, repeated.not_nodup]
  · simp [ofValue, found, apart, eq_comm]

/-- It is refused for the first name that is. -/
theorem ofValue_eq_error_iff {e : ConversionError} :
    ofValue type (.record entries) = .error e ↔
      ∃ name, IsFirstRepeated (entries.map Prod.fst) name ∧ e = .duplicateField type name := by
  rcases firstRepeated?_cases (entries.map Prod.fst) with ⟨name, found, repeated⟩ | ⟨found, apart⟩
  · simp only [ofValue, found, Except.error.injEq]
    constructor
    · rintro rfl
      exact ⟨name, repeated, rfl⟩
    · rintro ⟨other, repeated', rfl⟩
      rw [repeated.eq repeated']
  · simp only [ofValue, found, reduceCtorEq, false_iff]
    rintro ⟨name, repeated, -⟩
    exact repeated.not_nodup apart

/-! ### Calls -/

/-- What a reader is asked for. -/
inductive Call : Type 1 where
  | leaf (field : String) (type : Leaf)
  | nested {α : Type} (field : String) (decode : Decoder α)
  | optional {α : Type} (field : String) (decode : Decoder α)
  | list {α : Type} (field : String) (decode : Decoder α)
  | skip (field : String)

namespace Call

def field : Call → String
  | leaf field _ | nested field _ | optional field _ | list field _ | skip field => field

/-- What a call gives if there is an entry. Skipping it gives nothing. -/
abbrev Result : Call → Type
  | leaf .. => Datum
  | @nested α .. => α
  | @optional α .. => Option α
  | @list α .. => List α
  | skip _ => Empty

/-- The answer to a call: nothing if there is no entry. -/
abbrev Answer (c : Call) : Type := Except ConversionError (Option c.Result)

def run (r : RecordReader) : (c : Call) → c.Answer × RecordReader
  | leaf field t => r.nested field t.decode
  | nested field decode => r.nested field decode
  | optional field decode => r.optional field decode
  | list field decode => r.list field decode
  | skip field => (.ok none, r.skip field)

end Call

/-- Make calls one after the other: the calls with their answers, and the reader at the end. -/
def history (r : RecordReader) : List Call → List (Σ c : Call, c.Answer) × RecordReader
  | [] => ([], r)
  | c :: others =>
    let (answer, r) := c.run r
    let (answered, r) := r.history others
    (⟨c, answer⟩ :: answered, r)

/-! ### What calls answer -/

/-- What is read with null for no value. -/
inductive ReadsNullable (decode : Decoder α) : Value → Except ConversionError (Option α) → Prop
  | null : ReadsNullable decode .null (.ok none)
  | value {v : Value} {a : α} (other : v ≠ .null) (read : decode v = .ok a) :
      ReadsNullable decode v (.ok (some a))
  | refused {v : Value} {e : ConversionError} (other : v ≠ .null) (read : decode v = .error e) :
      ReadsNullable decode v (.error e)

/-- What is read item by item, up to the first that is refused. -/
inductive ReadsItems (decode : Decoder α) : Value → Except ConversionError (List α) → Prop
  | items {vs : List Value} {as : List α} (read : List.Forall₂ (decode · = .ok ·) vs as) :
      ReadsItems decode (.list vs) (.ok as)
  | refused {before after : List Value} {v : Value} {e : ConversionError}
      (read : ∀ u ∈ before, ∃ a, decode u = .ok a) (last : decode v = .error e) :
      ReadsItems decode (.list (before ++ v :: after)) (.error e)
  | other {v : Value} (noList : ∀ vs, v ≠ .list vs) :
      ReadsItems decode v (.error (.mismatch "list" v.kind))

/-- What a call makes of a value. -/
def Call.Reads : (c : Call) → Value → Except ConversionError c.Result → Prop
  | .leaf _ t, v, result => t.decode v = result
  | .nested _ decode, v, result => decode v = result
  | .optional _ decode, v, result => ReadsNullable decode v result
  | .list _ decode, v, result => ReadsItems decode v result
  | .skip _, _, _ => False

/-- The answer to a call by what the entries hold under its name. -/
inductive Call.Answers (type : String) (entries : List (String × Value)) :
    (c : Call) → c.Answer → Prop
  | absent {c : Call} (missing : ∀ entry ∈ entries, entry.1 ≠ c.field) :
    Answers type entries c (.ok none)
  | read {c : Call} {v : Value} {a : c.Result} (entry : (c.field, v) ∈ entries)
      (reads : c.Reads v (.ok a)) : Answers type entries c (.ok (some a))
  | refused {c : Call} {v : Value} {e : ConversionError} (entry : (c.field, v) ∈ entries)
      (reads : c.Reads v (.error e)) : Answers type entries c (.error (.inField type c.field e))
  | skipped (field : String) : Answers type entries (.skip field) (.ok none)

theorem readsNullable_orNull (decode : Decoder α) (v : Value) :
    ReadsNullable decode v (orNull decode v) := by
  by_cases null : v = .null
  · subst null
    exact .null
  · have other : orNull decode v = (decode v).map some := by
      cases v <;> first | rfl | exact absurd rfl null
    rw [other]
    cases read : decode v with
    | ok a => exact .value null read
    | error e => exact .refused null read

theorem readsItems_mapM (decode : Decoder α) (vs : List Value) :
    ReadsItems decode (.list vs) (vs.mapM decode) := by
  induction vs with
  | nil => exact .items .nil
  | cons v vs ih =>
    rw [List.mapM_cons]
    cases first : decode v with
    | error e => exact @ReadsItems.refused _ _ [] vs v e nofun first
    | ok a =>
      cases rest : vs.mapM decode with
      | ok as =>
        rw [rest] at ih
        cases ih with
        | items read => exact .items (.cons first read)
      | error e =>
        rw [rest] at ih
        cases ih with
        | @refused before after u _ read last =>
          exact @ReadsItems.refused _ _ (v :: before) after u e
            (List.forall_mem_cons.mpr ⟨⟨a, first⟩, read⟩) last
        | other noList => exact absurd rfl (noList vs)

theorem readsItems_listOf (decode : Decoder α) (v : Value) :
    ReadsItems decode v (listOf decode v) := by
  by_cases isList : ∃ vs, v = .list vs
  · obtain ⟨vs, rfl⟩ := isList
    exact readsItems_mapM decode vs
  · have noList : ∀ vs, v ≠ .list vs := not_exists.mp isList
    have refused : listOf decode v = .error (.mismatch "list" v.kind) := by
      cases v <;> first | rfl | exact absurd rfl (noList _)
    rw [refused]
    exact .other noList

/-! ### One call -/

variable {r : RecordReader}

theorem lookup_eq_some_iff {v : Value} (apart : (entries.map Prod.fst).Nodup) (name : String) :
    entries.lookup name = some v ↔ (name, v) ∈ entries := by
  refine ⟨mem_of_lookup_eq_some, fun member => ?_⟩
  refine lookup_eq_some_of_agree member fun w member' => ?_
  have same := List.inj_on_of_nodup_map apart member member' rfl
  exact (Prod.mk.inj same).2.symm

theorem lookup_eq_none_iff (name : String) :
    entries.lookup name = none ↔ ∀ entry ∈ entries, entry.1 ≠ name := by
  rw [List.lookup_eq_none_iff]
  refine forall₂_congr fun entry _ => ?_
  rw [bne_iff_ne]
  exact ne_comm

/-- What a call reads of an entry is what it answers, with the field around an error. -/
theorem answers_nested {c : Call} {decode : Decoder c.Result}
    (apart : (r.entries.map Prod.fst).Nodup) (reads : ∀ v, c.Reads v (decode v)) :
    c.Answers r.type r.entries (r.nested c.field decode).1 := by
  cases found : r.entries.lookup c.field with
  | none =>
    rw [nested, found]
    exact .absent ((lookup_eq_none_iff _).mp found)
  | some v =>
    have entry := (lookup_eq_some_iff apart _).mp found
    have reads := reads v
    rw [nested, found]
    simp only
    cases read : decode v with
    | ok a => exact .read entry (by rwa [read] at reads)
    | error e => exact .refused entry (by rwa [read] at reads)

theorem answers_run (apart : (r.entries.map Prod.fst).Nodup) (c : Call) :
    c.Answers r.type r.entries (c.run r).1 := by
  cases c with
  | leaf field t => exact answers_nested apart fun _ => rfl
  | nested field decode => exact answers_nested apart fun _ => rfl
  | optional field decode => exact answers_nested apart (readsNullable_orNull decode)
  | list field decode => exact answers_nested apart (readsItems_listOf decode)
  | skip field => exact .skipped field

/-- All that a call leaves behind is that its name was asked for, whatever it answers. -/
theorem run_snd (r : RecordReader) (c : Call) : (c.run r).2 = r.skip c.field := by
  cases c <;> rfl

/-- No answer depends on what was asked for before. -/
theorem run_skip (r : RecordReader) (c : Call) (name : String) :
    (c.run (r.skip name)).1 = (c.run r).1 := by
  cases c <;> rfl

/-! ### Sequences of calls -/

theorem history_eq (r : RecordReader) (calls : List Call) :
    r.history calls = (calls.map fun c => ⟨c, (c.run r).1⟩,
      { r with requested := (calls.map Call.field).reverse ++ r.requested }) := by
  induction calls generalizing r with
  | nil => rfl
  | cons c calls ih =>
    rw [history]
    simp only [run_snd, ih, run_skip]
    simp [skip]

theorem mem_requested_iff (calls : List Call) (name : String) :
    name ∈ ((⟨type, entries, []⟩ : RecordReader).history calls).2.requested ↔
      ∃ c ∈ calls, c.field = name := by
  simp [history_eq]

/-- The entries that nobody asked for, of which the first is reported. -/
theorem finish_eq : r.finish = (r.entries.find? fun entry => !r.requested.contains entry.1).elim
    (.ok ()) fun entry => .error (.unknownField r.type entry.1) := by
  rw [finish]
  split
  · next name v found =>
    have found : (r.entries.find? fun entry => !r.requested.contains entry.1) = some (name, v) :=
      found
    rw [found, Option.elim_some]
  · next found =>
    have found : (r.entries.find? fun entry => !r.requested.contains entry.1) = none := found
    rw [found, Option.elim_none]

theorem finish_eq_ok_iff : r.finish = .ok () ↔ ∀ entry ∈ r.entries, entry.1 ∈ r.requested := by
  have none_iff : (r.entries.find? fun entry => !r.requested.contains entry.1) = none ↔
      ∀ entry ∈ r.entries, entry.1 ∈ r.requested := by
    simp [List.find?_eq_none]
  rw [finish_eq, ← none_iff]
  cases r.entries.find? fun entry => !r.requested.contains entry.1 <;> simp

/-- A reader does not end well for the first entry that nobody asked for. -/
theorem finish_eq_error_iff {e : ConversionError} :
    r.finish = .error e ↔ ∃ before name v after, r.entries = before ++ (name, v) :: after ∧
      (∀ entry ∈ before, entry.1 ∈ r.requested) ∧ name ∉ r.requested ∧
      e = .unknownField r.type name := by
  have first (name : String) (v : Value) :
      (r.entries.find? fun entry => !r.requested.contains entry.1) = some (name, v) ↔
        name ∉ r.requested ∧ ∃ before after, r.entries = before ++ (name, v) :: after ∧
          ∀ entry ∈ before, entry.1 ∈ r.requested := by
    rw [List.find?_eq_some_iff_append]
    simp
  rw [finish_eq]
  constructor
  · intro refused
    cases found : r.entries.find? fun entry => !r.requested.contains entry.1 with
    | none =>
      rw [found] at refused
      cases refused
    | some entry =>
      rw [found] at refused
      cases refused
      obtain ⟨unasked, before, after, split, asked⟩ := (first entry.1 entry.2).mp found
      exact ⟨before, entry.1, entry.2, after, split, asked, unasked, rfl⟩
  · rintro ⟨before, name, v, after, split, asked, unasked, rfl⟩
    rw [(first name v).mpr ⟨unasked, before, after, split, asked⟩, Option.elim_some]

/-! ### Flags -/

/-- A reader that keeps a flag beside each entry, for whether the entry was read. -/
structure Flagged where
  type : String
  entries : List (String × Value)
  flags : List Bool

namespace Flagged

/-- No entry was read yet. -/
def ofEntries (type : String) (entries : List (String × Value)) : Flagged :=
  ⟨type, entries, List.replicate entries.length false⟩

/-- What the first entry of the name holds, if there is one. Its flag is raised; there is no result
if the flags do not reach that far. -/
def take (f : Flagged) (field : String) : Option (Option Value × Flagged) :=
  match f.entries.findIdx? (·.1 == field) with
  | none => some (none, f)
  | some i => do
    let (_, v) ← f.entries[i]?
    if i < f.flags.length then some (some v, { f with flags := f.flags.set i true }) else none

/-- The flag is raised before the entry is decoded. -/
def nested (f : Flagged) (field : String) (decode : Decoder α) :
    Option (Except ConversionError (Option α) × Flagged) := do
  let (found, f) ← f.take field
  match found with
  | none => return (.ok none, f)
  | some v => return (((decode v).map some).mapError (.inField f.type field), f)

def call (f : Flagged) : (c : Call) → Option (c.Answer × Flagged)
  | .leaf field t => f.nested field t.decode
  | .nested field decode => f.nested field decode
  | .optional field decode => f.nested field (orNull decode)
  | .list field decode => f.nested field (listOf decode)
  | .skip field => do return (.ok none, (← f.take field).2)

def history (f : Flagged) : List Call → Option (List (Σ c : Call, c.Answer) × Flagged)
  | [] => some ([], f)
  | c :: others => (f.call c).bind fun (answer, f) =>
    (f.history others).map fun (answered, f) => (⟨c, answer⟩ :: answered, f)

/-- The entry of the first flag that is down is unknown; there is no result if there are more flags
than entries. -/
def finish (f : Flagged) : Option (Except ConversionError Unit) :=
  match f.flags.findIdx? (!·) with
  | none => some (.ok ())
  | some i => f.entries[i]?.map fun entry => .error (.unknownField f.type entry.1)

/-- The flags that are up are those of the entries that were asked for. -/
def ofReader (r : RecordReader) : Flagged :=
  ⟨r.type, r.entries, r.entries.map fun entry => r.requested.contains entry.1⟩

end Flagged

theorem Flagged.ofReader_new : Flagged.ofReader ⟨type, entries, []⟩ = .ofEntries type entries := by
  simp [ofReader, ofEntries, List.map_const']

/-- Names that are apart share no flag, so that the flag of one entry is all that changes. -/
theorem Flagged.take_ofReader (apart : (r.entries.map Prod.fst).Nodup) (field : String) :
    (ofReader r).take field = some (r.entries.lookup field, ofReader (r.skip field)) := by
  obtain ⟨type, entries, requested⟩ := r
  simp only [take, ofReader, RecordReader.skip]
  cases found : entries.findIdx? (·.1 == field) with
  | none =>
    have missing : ∀ entry ∈ entries, entry.1 ≠ field := by
      simpa using List.findIdx?_eq_none_iff.mp found
    have same : (entries.map fun entry => (field :: requested).contains entry.1) =
        entries.map fun entry => requested.contains entry.1 :=
      List.map_congr_left fun entry member => by simp [missing entry member]
    rw [(lookup_eq_none_iff field).mpr missing, same]
  | some i =>
    obtain ⟨inside, named, -⟩ := List.findIdx?_eq_some_iff_getElem.mp found
    have named : entries[i].1 = field := eq_of_beq named
    have entry : (field, entries[i].2) ∈ entries := named ▸ List.getElem_mem inside
    have raised : (entries.map fun entry => requested.contains entry.1).set i true =
        entries.map fun entry => (field :: requested).contains entry.1 := by
      refine List.ext_getElem (by simp) fun j short _ => ?_
      have inside' : j < entries.length := by simpa using short
      -- Another entry has another name, as the names are apart.
      have other : i = j ↔ entries[j].1 = field := by
        constructor
        · rintro rfl
          exact named
        · intro named'
          have same := List.inj_on_of_nodup_map apart (List.getElem_mem inside)
            (List.getElem_mem inside') (named.trans named'.symm)
          exact (List.Nodup.getElem_inj_iff apart.of_map).mp same
      by_cases same : i = j
      · simp [same, other.mp same]
      · simp [same, mt other.mpr same]
    rw [(lookup_eq_some_iff apart field).mpr entry, ← raised]
    simp [inside]

theorem Flagged.nested_ofReader (apart : (r.entries.map Prod.fst).Nodup) (field : String)
    (decode : Decoder α) : (ofReader r).nested field decode =
      some ((r.nested field decode).1, ofReader (r.skip field)) := by
  rw [nested, take_ofReader apart]
  cases found : r.entries.lookup field <;>
    simp [RecordReader.nested, found, ofReader, RecordReader.skip]

theorem Flagged.call_ofReader (apart : (r.entries.map Prod.fst).Nodup) (c : Call) :
    (ofReader r).call c = some ((c.run r).1, ofReader (c.run r).2) := by
  cases c with
  | skip field =>
    rw [call, take_ofReader apart]
    rfl
  | _ => exact nested_ofReader apart _ _

theorem Flagged.history_ofReader (apart : (r.entries.map Prod.fst).Nodup) (calls : List Call) :
    (ofReader r).history calls = some ((r.history calls).1, ofReader (r.history calls).2) := by
  induction calls generalizing r with
  | nil => rfl
  | cons c calls ih =>
    have apart' : ((c.run r).2.entries.map Prod.fst).Nodup := by rwa [run_snd]
    rw [history, call_ofReader apart, Option.bind_some]
    simp only [ih apart']
    rfl

theorem Flagged.finish_ofReader (r : RecordReader) : (ofReader r).finish = some r.finish := by
  obtain ⟨type, entries, requested⟩ := r
  simp only [finish, ofReader, List.findIdx?_map, RecordReader.finish]
  cases found : entries.findIdx? ((!·) ∘ fun entry => requested.contains entry.1) with
  | none =>
    have all : entries.find? (fun entry => !requested.contains entry.1) = none :=
      List.find?_eq_none.mpr fun entry member => by
        simpa using List.findIdx?_eq_none_iff.mp found entry member
    rw [all]
  | some i =>
    obtain ⟨inside, unread, least⟩ := List.findIdx?_eq_some_iff_getElem.mp found
    have first : entries.find? (fun entry => !requested.contains entry.1) = some entries[i] :=
      List.find?_eq_some_iff_getElem.mpr ⟨unread, i, inside, rfl, fun j before => by
        simpa using least j before⟩
    rw [first]
    simp [inside]

/-! ### Records -/

/-- What a reader of the entries does over the calls. -/
structure AnswersByEntry (type : String) (entries : List (String × Value)) (r : RecordReader)
    (calls : List Call) : Prop where
  /-- Each call is answered as on the new reader. -/
  independent : (r.history calls).1 = calls.map fun c => ⟨c, (c.run r).1⟩
  answers : ∀ c : Call, c.Answers type entries (c.run r).1
  settles : (r.history calls).2.finish = .ok () ↔ ∀ entry ∈ entries, ∃ c ∈ calls, c.field = entry.1
  leaves : ∀ e, (r.history calls).2.finish = .error e ↔ ∃ before name v after,
    entries = before ++ (name, v) :: after ∧ (∀ entry ∈ before, ∃ c ∈ calls, c.field = entry.1) ∧
      (∀ c ∈ calls, c.field ≠ name) ∧ e = .unknownField type name
  /-- Flags beside the entries are never missed and lead to the same answers and the same end. -/
  flagged : ∃ f, (Flagged.ofEntries type entries).history calls = some ((r.history calls).1, f) ∧
    f.flags.length = entries.length ∧ f.finish = some (r.history calls).2.finish

/-- A record has a reader if its names are apart and is refused for the first name that is repeated.
Over any calls, the reader answers each from the entry of its name, and ends well if every entry was
asked for. -/
theorem answers_by_entry (type : String) (entries : List (String × Value)) :
    ((∃ r, ofValue type (.record entries) = .ok r) ↔ (entries.map Prod.fst).Nodup) ∧
      (∀ e, ofValue type (.record entries) = .error e ↔
        ∃ name, IsFirstRepeated (entries.map Prod.fst) name ∧ e = .duplicateField type name) ∧
      ∀ r, ofValue type (.record entries) = .ok r →
        ∀ calls, AnswersByEntry type entries r calls := by
  refine ⟨?_, fun e => ofValue_eq_error_iff, fun r built calls => ?_⟩
  · constructor
    · rintro ⟨r, built⟩
      exact (ofValue_eq_ok_iff.mp built).1
    · intro apart
      exact ⟨_, ofValue_eq_ok_iff.mpr ⟨apart, rfl⟩⟩
  obtain ⟨apart, rfl⟩ := ofValue_eq_ok_iff.mp built
  have entriesKept : (history ⟨type, entries, []⟩ calls).2.entries = entries := by rw [history_eq]
  refine {
    independent := by rw [history_eq]
    answers := fun c => answers_run (r := ⟨type, entries, []⟩) apart c
    settles := ?_
    leaves := fun e => ?_
    flagged := ⟨_, ?_, ?_, Flagged.finish_ofReader _⟩ }
  · simp only [finish_eq_ok_iff, mem_requested_iff, entriesKept]
  · have typeKept : (history ⟨type, entries, []⟩ calls).2.type = type := by rw [history_eq]
    simp only [finish_eq_error_iff, mem_requested_iff, entriesKept, typeKept, not_exists, not_and]
  · rw [← Flagged.ofReader_new]
    exact Flagged.history_ofReader apart calls
  · rw [Flagged.ofReader, List.length_map, entriesKept]

/-- A call whose value is refused and one for a name that is not there do not get in the way of the
entry that nobody asked for. -/
theorem answers_by_entry_unread :
    let entries : List (String × Value) :=
      [("x", .text "one"), ("double_x", .integer 2), ("extra", .bool true)]
    let calls : List Call := [.leaf "x" (.integer true .bits64), .leaf "y" .text, .skip "double_x"]
    ∃ r, ofValue "Point" (.record entries) = .ok r ∧
      (r.history calls).2.finish = .error (.unknownField "Point" "extra") ∧
      AnswersByEntry "Point" entries r calls := by
  intro entries calls
  have built : ofValue "Point" (.record entries) = .ok ⟨"Point", entries, []⟩ := rfl
  have left : (history ⟨"Point", entries, []⟩ calls).2.finish =
      .error (.unknownField "Point" "extra") := by
    rw [history_eq]
    rfl
  exact ⟨_, built, left, (answers_by_entry "Point" entries).2.2 _ built calls⟩

end Companion.RecordReader

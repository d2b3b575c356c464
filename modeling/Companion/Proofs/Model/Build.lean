import Companion.Model.Build
import Companion.Proofs.Model.Batch

/-! What a model says of its declaration. -/

set_option autoImplicit false

namespace Companion.Model

variable {batch : Batch} {source : DeclarationSource} {d : Declaration} {m : Model}

/-- What was checked of a declaration, and what its model keeps. -/
structure IsOf (batch : Batch) (source : DeclarationSource) (d : Declaration) (m : Model) :
    Prop where
  named : (checkName (source.locate d.name) d.name).value = some ()
  fields : (Checked.all (checkFields batch source d)).value = some m.fields
  methods : (Checked.all (checkMethods batch source d)).value = some m.methods
  encodings : ∃ encodings, (Checked.all (if d.generates .converter then
    (Checked.successes (checkFields batch source d)).map (checkEncoding batch) else [])).value =
      some encodings
  name : m.name = d.name
  artifacts : m.artifacts = d.artifacts

theorem isOf_of_ofDeclaration (built : (ofDeclaration batch source d).value = some m) :
    m.IsOf batch source d := by
  simp only [ofDeclaration, Checked.value_seq, Checked.value_map, Option.bind_eq_some_iff,
    Option.map_eq_some_iff] at built
  obtain ⟨_, ⟨_, ⟨_, ⟨_, ⟨_, ⟨_, named, rfl⟩, _, _, rfl⟩, _, _, rfl⟩, fields, known, rfl⟩, methods,
    known', rfl⟩, encodings, passed, rfl⟩ := built
  exact ⟨named, known, known', ⟨encodings, passed⟩, rfl, rfl⟩

/-- The fields of a model are those of all members, in order. -/
theorem fields_of_ofDeclaration (built : (ofDeclaration batch source d).value = some m) :
    (checkFields batch source d).map (·.value) = m.fields.map some :=
  Checked.value_all_eq_some.mp (isOf_of_ofDeclaration built).fields

/-! ### Fields -/

theorem parse_of_checkType {l : Location} {text : String} {t : TypeRef}
    (checked : (checkType l text).value = some t) : TypeRef.parse text = .ok t := by
  unfold checkType at checked
  split at checked
  · next parsed =>
    cases checked
    exact parsed
  · cases checked

/-- What was checked of a member, and what its field keeps. -/
structure Field.IsOf (batch : Batch) (l : Location) (member : Declaration.Member) (f : Field) :
    Prop where
  named : memberName member = .ok (f.name, f.accessor)
  names : (checkNames l f.name f.accessor).value = some ()
  parsed : TypeRef.parse member.type = .ok f.type
  role : (checkRole l f.name member).value = some f.role
  validators : (checkValidators l member.validators).value = some f.validators
  nested : f.nested = batch.nested? f.type
  location : f.location = l

theorem isOf_of_checkField {l : Location} {member : Declaration.Member} {f : Field}
    (checked : (checkField batch l member).value = some f) : f.IsOf batch l member := by
  unfold checkField at checked
  split at checked
  · cases checked
  · next named =>
    simp only [Checked.value_seq, Checked.value_map, Option.bind_eq_some_iff,
      Option.map_eq_some_iff] at checked
    obtain ⟨_, ⟨_, ⟨_, ⟨_, names, rfl⟩, _, typed, rfl⟩, _, role, rfl⟩, _, validators, rfl⟩ := checked
    exact ⟨named, names, parse_of_checkType typed, role, validators, rfl, rfl⟩

/-- What was kept of the first field, and of the others. -/
theorem exists_of_refuseRepeated_cons {seen : List String} {x : Checked Field} {xs : List (Checked Field)}
    {fields : List Field} (kept : (refuseRepeated seen (x :: xs)).map (·.value) = fields.map some) :
    ∃ f others, fields = f :: others ∧ x.value = some f ∧ f.name ∉ seen ∧
      (refuseRepeated (f.name :: seen) xs).map (·.value) = others.map some := by
  unfold refuseRepeated at kept
  cases value : x.value with
  | none => cases fields <;> simp [value] at kept
  | some f =>
    simp only [value] at kept
    split at kept
    · cases fields <;> simp [value, ModelError.reportAt] at kept
    · next fresh =>
      cases fields with
      | nil => cases kept
      | cons g others =>
        rw [List.map_cons, List.map_cons, List.cons.injEq, value, Option.some.injEq] at kept
        obtain ⟨rfl, later⟩ := kept
        exact ⟨f, others, rfl, rfl, by simpa using fresh, later⟩

/-- Where no field was refused, none was changed. -/
theorem values_of_refuseRepeated {seen : List String} {xs : List (Checked Field)}
    {fields : List Field} (kept : (refuseRepeated seen xs).map (·.value) = fields.map some) :
    xs.map (·.value) = fields.map some := by
  induction xs generalizing seen fields with
  | nil => exact kept
  | cons x xs ih =>
    obtain ⟨f, others, rfl, value, -, later⟩ := exists_of_refuseRepeated_cons kept
    rw [List.map_cons, List.map_cons, value, ih later]

/-- Fields that were all kept have names of their own. -/
theorem names_of_refuseRepeated {seen : List String} {xs : List (Checked Field)}
    {fields : List Field} (kept : (refuseRepeated seen xs).map (·.value) = fields.map some) :
    (fields.map (·.name)).Nodup ∧ ∀ f ∈ fields, f.name ∉ seen := by
  induction xs generalizing seen fields with
  | nil =>
    cases fields with
    | nil => simp
    | cons f fields => cases kept
  | cons x xs ih =>
    obtain ⟨f, others, rfl, -, fresh, later⟩ := exists_of_refuseRepeated_cons kept
    obtain ⟨apart, unseen⟩ := ih later
    refine ⟨List.nodup_cons.mpr ⟨fun repeated => ?_, apart⟩, List.forall_mem_cons.mpr
      ⟨fresh, fun g member => List.not_mem_of_not_mem_cons (unseen g member)⟩⟩
    obtain ⟨g, member, same⟩ := List.mem_map.mp repeated
    exact unseen g member (same ▸ List.mem_cons_self ..)

/-- Every field is one that was checked, or one that is refused for its name. -/
theorem forall_refuseRepeated {P : Checked Field → Prop} {seen : List String}
    {xs : List (Checked Field)} (each : ∀ x ∈ xs, P x)
    (refused : ∀ x, P x →
      P (x.andThen fun f => (ModelError.duplicateField f.name).reportAt f.location)) :
    ∀ x ∈ refuseRepeated seen xs, P x := by
  induction xs generalizing seen with
  | nil => simp [refuseRepeated]
  | cons x others ih =>
    obtain ⟨first, rest⟩ := List.forall_mem_cons.mp each
    unfold refuseRepeated
    split
    · exact List.forall_mem_cons.mpr ⟨first, ih rest⟩
    · split
      · exact List.forall_mem_cons.mpr ⟨refused x first, ih rest⟩
      · exact List.forall_mem_cons.mpr ⟨first, ih rest⟩

theorem names_of_ofDeclaration (built : (ofDeclaration batch source d).value = some m) :
    (m.fields.map (·.name)).Nodup :=
  (names_of_refuseRepeated (fields_of_ofDeclaration built)).1

/-- Every field of a model is a member that passed its checks. -/
theorem exists_checkField (built : (ofDeclaration batch source d).value = some m) {f : Field}
    (member : f ∈ m.fields) : ∃ l declared, (checkField batch l declared).value = some f := by
  have same := values_of_refuseRepeated (fields_of_ofDeclaration built)
  have listed : some f ∈ m.fields.map some := List.mem_map_of_mem member
  rw [← same, List.map_map] at listed
  obtain ⟨declared, -, checked⟩ := List.mem_map.mp listed
  exact ⟨_, declared, checked⟩

/-- A field holds what the batch sees in its type. -/
theorem nested_of_mem_fields (built : (ofDeclaration batch source d).value = some m) {f : Field}
    (member : f ∈ m.fields) : f.nested = batch.nested? f.type := by
  obtain ⟨_, _, checked⟩ := exists_checkField built member
  exact (isOf_of_checkField checked).nested

/-- What the fields of a model hold is what the members of its declaration hold. -/
theorem nested_of_ofDeclaration (built : (ofDeclaration batch source d).value = some m) :
    (m.fields.filterMap (·.nested)).map (·.declaration) =
      d.members.filterMap fun member => batch.heldBy member.type := by
  have same := values_of_refuseRepeated (fields_of_ofDeclaration built)
  -- Members and fields match one to one, so the induction is on both.
  generalize m.fields = fields at same
  generalize d.members = members at same
  induction members generalizing fields with
  | nil =>
    cases fields with
    | nil => rfl
    | cons f fields => cases same
  | cons member members ih =>
    cases fields with
    | nil => cases same
    | cons f fields =>
      simp only [List.map_cons, List.cons.injEq] at same
      have isOf := isOf_of_checkField same.1
      have held : batch.heldBy member.type = f.nested.map (·.declaration) := by
        rw [Batch.heldBy, isOf.parsed, isOf.nested]
      rw [List.filterMap_cons, List.filterMap_cons, held, ← ih fields same.2]
      cases f.nested <;> rfl

/-! ### Encodings -/

/-- A converter can encode every field. -/
theorem encodings_of_ofDeclaration (built : (ofDeclaration batch source d).value = some m)
    (converts : d.generates .converter = true) :
    ∀ f ∈ m.fields, (checkEncoding batch f).value = some () := by
  have isOf := isOf_of_ofDeclaration built
  obtain ⟨encodings, passed⟩ := isOf.encodings
  rw [if_pos converts, Checked.successes_eq isOf.fields] at passed
  have same := Checked.value_all_eq_some.mp passed
  intro f member
  have mapped : (checkEncoding batch f).value ∈ encodings.map some := by
    rw [← same, List.map_map]
    exact List.mem_map_of_mem (f := Checked.value ∘ checkEncoding batch) member
  obtain ⟨_, -, value⟩ := List.mem_map.mp mapped
  exact value.symm

/-- A field that can be encoded is a leaf, or holds a declaration that has a converter. -/
theorem encodes_of_checkEncoding {f : Field} (checked : (checkEncoding batch f).value = some ()) :
    (∀ nested, f.nested = some nested → batch.hasConverter nested.declaration = true) ∧
      (f.nested = none → f.type.missingLeaf? batch.isDeclaredType = none) := by
  unfold checkEncoding at checked
  split at checked
  · next leaf =>
    refine ⟨fun nested holds => (by rw [leaf] at holds; cases holds), fun _ => ?_⟩
    split at checked
    · cases checked
    · assumption
  · next nested holds =>
    refine ⟨fun other same => ?_, fun leaf => (by rw [holds] at leaf; cases leaf)⟩
    cases holds.symm.trans same
    split at checked
    · assumption
    · cases checked

end Companion.Model

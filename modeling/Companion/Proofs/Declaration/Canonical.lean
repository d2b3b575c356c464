import Companion.Declaration.Basic
import Companion.Declaration.Canonical
import Companion.Proofs.Json.Compact
import Companion.Proofs.Text.Basic
import Mathlib.Logic.Relation

/-! What the canonical text of a declaration, and so its digest, tells.

It tells all of the declaration but which of the floats that are no numbers an argument is: all of
these are written as null.
-/

set_option autoImplicit false

/-! ### Which companions a declaration gets -/

namespace Companion

namespace ArtifactKind

/-- The companion is the other one, or cannot be without one that leads to it. -/
abbrev Needs : ArtifactKind → ArtifactKind → Prop :=
  Relation.ReflTransGen fun kind other => kind.prerequisite? = some other

theorem needs_prerequisite {kind other next : ArtifactKind} (needed : kind.needs other = true)
    (direct : other.prerequisite? = some next) : kind.needs next = true := by
  cases kind <;> cases other <;> cases next <;> simp_all [needs, prerequisite?]

theorem needs_iff {kind other : ArtifactKind} : kind.needs other = true ↔ kind.Needs other := by
  constructor
  · intro needed
    have builder : Needs .builder .subclass := .single rfl
    have converter : Needs .converter .builder := .single rfl
    cases kind <;> cases other <;>
      first | exact .refl | assumption | exact converter.trans builder | cases needed
  · intro needed
    induction needed with
    | refl => cases kind <;> rfl
    | tail _ direct ih => exact needs_prerequisite ih direct

theorem name_injective : Function.Injective name := by
  intro kind kind' same
  cases kind <;> cases kind' <;> first | rfl | simp [name] at same

/-- What precedes a kind's name can be told from it by a character that is in none of the names. -/
theorem append_name_inj {c : Char} (apart : ∀ kind, c ∉ (name kind).toList)
    {before before' after : List Char} {kind kind' : ArtifactKind}
    (same : before ++ c :: (kind.name.toList ++ after) =
      before' ++ c :: (kind'.name.toList ++ after)) : before = before' ∧ kind = kind' := by
  have whole : (before ++ c :: kind.name.toList) = before' ++ c :: kind'.name.toList := by
    refine List.append_cancel_right (?_ : _ ++ after = _ ++ after)
    simpa using same
  have reversed := congrArg List.reverse whole
  simp only [List.reverse_append, List.reverse_cons, List.append_assoc, List.singleton_append]
    at reversed
  obtain ⟨names, parts⟩ := Chars.append_cons_inj
    (by simpa using apart kind) (by simpa using apart kind') reversed
  exact ⟨List.reverse_injective parts,
    name_injective (String.toList_injective (List.reverse_injective names))⟩

end ArtifactKind

namespace Declaration

/-- A companion is asked for, or one that cannot be without it. -/
def Gets (d : Declaration) (kind : ArtifactKind) : Prop :=
  ∃ asked ∈ d.requested, asked.Needs kind

theorem generates_iff {d : Declaration} {kind : ArtifactKind} :
    d.generates kind = true ↔ d.Gets kind := by
  simp only [generates, Gets, List.any_eq_true, ArtifactKind.needs_iff]

theorem mem_artifacts {d : Declaration} {kind : ArtifactKind} :
    kind ∈ d.artifacts ↔ d.Gets kind := by
  have known : kind ∈ ArtifactKind.all := by cases kind <;> decide
  rw [artifacts, List.mem_filter, generates_iff, and_iff_right known]

theorem artifacts_sublist (d : Declaration) :
    d.artifacts.Sublist [.subclass, .builder, .converter] := List.filter_sublist

end Declaration

end Companion

namespace Companion

open Decimal (isFinite)

/-! ### Values -/

theorem Argument.toJson_injective {a a' : Argument} (same : a.toJson = a'.toJson) : a = a' := by
  cases a <;> cases a' <;> simp_all [toJson, Int64.toInt_inj]

theorem ValidatorSpec.toJson_injective {v v' : ValidatorSpec} (same : v.toJson = v'.toJson) :
    v = v' := by
  cases v with
  | tag t =>
    cases v' with
    | tag t' => exact congrArg tag (Json.text.inj same)
    | entries => cases same
  | entries parts =>
    cases v' with
    | tag => cases same
    | entries parts' =>
      have paired : Function.Injective fun (entry : String × Argument) => (entry.1, entry.2.toJson) :=
        fun entry entry' same => Prod.ext (Prod.mk.inj same).1
          (Argument.toJson_injective (Prod.mk.inj same).2)
      exact congrArg entries (List.map_injective_iff.mpr paired (Json.object.inj same))

namespace Declaration

/-! ### Fields -/

section

variable {α : Type} {toJson : α → Json}

/-- A list as the value of a field that is left out if the list is empty. -/
def listValue (toJson : α → Json) (items : List α) : Option Json :=
  if items.isEmpty then none else some (.array (items.map toJson))

theorem listValue_injective (injective : Function.Injective toJson) :
    Function.Injective (listValue toJson) := by
  intro items items' same
  cases items <;> cases items' <;> simp [listValue] at same
  · rfl
  · obtain ⟨first, others⟩ := same
    rw [injective first, List.map_injective_iff.mpr injective others]

theorem map_text_injective : Function.Injective (Option.map Json.text) :=
  Option.map_injective fun _ _ => Json.text.inj

theorem lookup_optional (key name : String) (value : Option String) :
    (optional name value).lookup key = if key = name then value.map .text else none := by
  cases value with
  | none => simp [optional]
  | some v =>
    rw [optional, Option.map_some, Option.toList_some, List.lookup_cons]
    split <;> simp_all

theorem lookup_unlessEmpty (key name : String) (items : List α) :
    (unlessEmpty name items toJson).lookup key =
      if key = name then listValue toJson items else none := by
  unfold unlessEmpty listValue
  split
  · simp
  · rw [List.lookup_cons]
    split <;> simp_all

end

theorem validators_inj {vs vs' : List ValidatorSpec} :
    listValue ValidatorSpec.toJson vs = listValue ValidatorSpec.toJson vs' ↔ vs = vs' :=
  (listValue_injective fun _ _ => ValidatorSpec.toJson_injective).eq_iff

theorem texts_inj {texts texts' : List String} :
    listValue Json.text texts = listValue Json.text texts' ↔ texts = texts' :=
  (listValue_injective fun _ _ => Json.text.inj).eq_iff

theorem text_inj {text text' : Option String} :
    text.map Json.text = text'.map Json.text ↔ text = text' :=
  map_text_injective.eq_iff

/-! ### Records

Each field of a record is found under its name. -/

theorem Parameter.toJson_injective : Function.Injective Parameter.toJson := by
  intro p p' same
  have value (key : String) := congrArg (List.lookup key) (Json.object.inj same)
  have name := value "name"
  have type := value "type"
  have validators := value "validators"
  simp [lookup_unlessEmpty, List.lookup_cons, validators_inj] at name type validators
  cases p
  cases p'
  simp_all

theorem parameters_inj {ps ps' : List Parameter} :
    listValue Parameter.toJson ps = listValue Parameter.toJson ps' ↔ ps = ps' :=
  (listValue_injective Parameter.toJson_injective).eq_iff

theorem Member.toJson_injective : Function.Injective Member.toJson := by
  intro m m' same
  have value (key : String) := congrArg (List.lookup key) (Json.object.inj same)
  have accessor := value "accessor"
  have field := value "field"
  have type := value "type"
  have default := value "default"
  have derivation := value "derive"
  have validators := value "validators"
  have description := value "description"
  simp [lookup_optional, lookup_unlessEmpty, List.lookup_append, List.lookup_cons, text_inj,
    validators_inj] at accessor field type default derivation validators description
  cases m
  cases m'
  simp_all

theorem Method.toJson_injective : Function.Injective Method.toJson := by
  intro m m' same
  have value (key : String) := congrArg (List.lookup key) (Json.object.inj same)
  have name := value "name"
  have parameters := value "parameters"
  have returns := value "returns"
  have validators := value "validators"
  have interceptors := value "interceptors"
  have body := value "body"
  simp [lookup_optional, lookup_unlessEmpty, List.lookup_append, List.lookup_cons, text_inj,
    texts_inj, parameters_inj, validators_inj] at name parameters returns validators interceptors body
  cases m
  cases m'
  simp_all

theorem methods_inj {ms ms' : List Method} :
    listValue Method.toJson ms = listValue Method.toJson ms' ↔ ms = ms' :=
  (listValue_injective Method.toJson_injective).eq_iff

theorem toJson_injective : Function.Injective toJson := by
  intro d d' same
  have value (key : String) := congrArg (List.lookup key) (Json.object.inj same)
  have name := value "name"
  have implements := value "implements"
  have supertypes := value "supertypes"
  have generate := value "generate"
  have members := value "members"
  have methods := value "methods"
  have description := value "description"
  simp [lookup_optional, lookup_unlessEmpty, List.lookup_append, List.lookup_cons, text_inj,
    texts_inj, methods_inj] at name implements supertypes generate members methods description
  have generate := List.map_injective_iff.mpr
    (fun _ _ same => ArtifactKind.name_injective (Json.text.inj same)) generate
  have members := List.map_injective_iff.mpr Member.toJson_injective members
  cases d
  cases d'
  simp_all

end Declaration

/-! ### Floats that are no numbers -/

/-- The argument, with one float for all that are no numbers. -/
def Argument.settled : Argument → Argument
  | float x => float (if isFinite x then x else Json.noNumber)
  | a => a

def ValidatorSpec.settled : ValidatorSpec → ValidatorSpec
  | tag t => tag t
  | entries parts => entries (parts.map fun (name, a) => (name, a.settled))

namespace Declaration

def Member.settled (m : Member) : Member :=
  { m with validators := m.validators.map ValidatorSpec.settled }

def Parameter.settled (p : Parameter) : Parameter :=
  { p with validators := p.validators.map ValidatorSpec.settled }

def Method.settled (m : Method) : Method :=
  { m with
    parameters := m.parameters.map Parameter.settled
    validators := m.validators.map ValidatorSpec.settled }

/-- The declaration, with one float for all that are no numbers. -/
def settled (d : Declaration) : Declaration :=
  { d with members := d.members.map Member.settled, methods := d.methods.map Method.settled }

/-- The validators of members, parameters and methods. -/
def validators (d : Declaration) : List ValidatorSpec :=
  d.members.flatMap (·.validators) ++
    d.methods.flatMap fun m => m.parameters.flatMap (·.validators) ++ m.validators

end Declaration

/-- The arguments of a validator. -/
def ValidatorSpec.arguments : ValidatorSpec → List Argument
  | tag _ => []
  | entries parts => parts.map (·.2)

/-- All floats that are arguments are numbers. -/
def Declaration.IsFinite (d : Declaration) : Prop :=
  ∀ v ∈ d.validators, ∀ x, Argument.float x ∈ v.arguments → isFinite x = true

theorem map_eq_self {α : Type} {f : α → α} {items : List α} (each : ∀ a ∈ items, f a = a) :
    items.map f = items :=
  (List.map_congr_left each).trans (List.map_id _)

theorem ValidatorSpec.settled_eq_self {v : ValidatorSpec}
    (finite : ∀ x, Argument.float x ∈ v.arguments → isFinite x = true) : v.settled = v := by
  cases v with
  | tag t => rfl
  | entries parts =>
    refine congrArg entries (map_eq_self fun (name, a) member => ?_)
    cases a with
    | float x =>
      simp [Argument.settled, finite x (List.mem_map_of_mem (f := (·.2)) member)]
    | _ => rfl

/-- Nothing is replaced where all floats are numbers. -/
theorem Declaration.settled_eq_self {d : Declaration} (finite : d.IsFinite) : d.settled = d := by
  have each (vs : List ValidatorSpec) (among : ∀ v ∈ vs, v ∈ d.validators) :
      vs.map ValidatorSpec.settled = vs :=
    map_eq_self fun v member => ValidatorSpec.settled_eq_self (finite v (among v member))
  have members : d.members.map Member.settled = d.members := map_eq_self fun m member => by
    rw [Member.settled, each m.validators fun v inside =>
      List.mem_append_left _ (List.mem_flatMap_of_mem member inside)]
  have methods : d.methods.map Method.settled = d.methods := map_eq_self fun m member => by
    have inside (v : ValidatorSpec)
        (its : v ∈ m.parameters.flatMap (·.validators) ++ m.validators) : v ∈ d.validators :=
      List.mem_append_right _ (List.mem_flatMap.mpr ⟨m, member, its⟩)
    have parameters : m.parameters.map Parameter.settled = m.parameters :=
      map_eq_self fun p listed => by
        rw [Parameter.settled, each p.validators fun v its =>
          inside v (List.mem_append_left _ (List.mem_flatMap_of_mem listed its))]
    rw [Method.settled, parameters, each m.validators fun v its =>
      inside v (List.mem_append_right _ its)]
  rw [settled, members, methods]

/-! ### Texts -/

open Json (compact fieldText)

theorem Argument.compact_settled (a : Argument) : compact a.settled.toJson = compact a.toJson := by
  cases a with
  | float x =>
    by_cases finite : isFinite x = true
    · simp [settled, finite]
    · simp [settled, finite, toJson, compact, Json.floatText, Json.isFinite_noNumber]
  | _ => rfl

theorem compact_object {fields fields' : List (String × Json)}
    (same : fields.map fieldText = fields'.map fieldText) :
    compact (.object fields) = compact (.object fields') := by
  rw [compact, compact, Json.compactFields_eq, Json.compactFields_eq, same]

theorem compact_array {items items' : List Json} (same : items.map compact = items'.map compact) :
    compact (.array items) = compact (.array items') := by
  rw [compact, compact, Json.compactAll_eq, Json.compactAll_eq, same]

theorem ValidatorSpec.compact_settled (v : ValidatorSpec) :
    compact v.settled.toJson = compact v.toJson := by
  cases v with
  | tag t => rfl
  | entries parts =>
    refine compact_object ?_
    simp [fieldText, Argument.compact_settled]

namespace Declaration

theorem fieldText_unlessEmpty {α : Type} {toJson : α → Json} {f : α → α}
    (each : ∀ a, compact (toJson (f a)) = compact (toJson a)) (name : String) (items : List α) :
    (unlessEmpty name (items.map f) toJson).map fieldText =
      (unlessEmpty name items toJson).map fieldText := by
  have texts : ((items.map f).map toJson).map compact = (items.map toJson).map compact := by
    simp [each]
  cases items with
  | nil => rfl
  | cons a items =>
    have list := compact_array texts
    simp [unlessEmpty, fieldText] at list ⊢
    exact list

theorem Parameter.compact_settled (p : Parameter) : compact p.settled.toJson = compact p.toJson :=
  compact_object (by simp [settled, fieldText_unlessEmpty ValidatorSpec.compact_settled])

theorem Member.compact_settled (m : Member) : compact m.settled.toJson = compact m.toJson :=
  compact_object (by simp [settled, fieldText_unlessEmpty ValidatorSpec.compact_settled])

theorem Method.compact_settled (m : Method) : compact m.settled.toJson = compact m.toJson :=
  compact_object (by simp [settled, fieldText_unlessEmpty ValidatorSpec.compact_settled,
    fieldText_unlessEmpty Parameter.compact_settled])

/-- The text is the same with one float for all that are no numbers. -/
theorem canonical_settled (d : Declaration) : d.settled.canonical = d.canonical := by
  have members : compact (.array (d.settled.members.map Member.toJson)) =
      compact (.array (d.members.map Member.toJson)) :=
    compact_array (by simp [settled, Member.compact_settled])
  refine compact_object ?_
  simp only [List.map_append, List.map_cons, fieldText, members]
  simp [settled, fieldText_unlessEmpty Method.compact_settled]

theorem settled_optional (name : String) (value : Option String) :
    ∀ f ∈ optional name value, f.2.Settled := by
  intro f member
  cases value with
  | none => cases member
  | some v =>
    cases List.mem_singleton.mp member
    exact .text v

theorem settled_unlessEmpty {α : Type} {toJson : α → Json} (name : String) {items : List α}
    (each : ∀ a ∈ items, (toJson a).Settled) : ∀ f ∈ unlessEmpty name items toJson, f.2.Settled := by
  intro f member
  unfold unlessEmpty at member
  split at member
  · cases member
  · cases List.mem_singleton.mp member
    exact .array (List.forall_mem_map.mpr each)

end Declaration

theorem Argument.settled_toJson (a : Argument) : a.settled.toJson.Settled := by
  cases a with
  | bool b => exact .bool b
  | integer i => exact .integer _
  | float x =>
    refine .float fun infinite => ?_
    split at infinite
    · next finite => exact absurd (finite.symm.trans infinite) (by decide)
    · next other => rw [if_neg other]
  | text s => exact .text s

theorem ValidatorSpec.settled_toJson (v : ValidatorSpec) : v.settled.toJson.Settled := by
  cases v with
  | tag t => exact .text t
  | entries parts =>
    refine .object fun f member => ?_
    simp only [List.mem_map, List.map_map] at member
    obtain ⟨entry, -, rfl⟩ := member
    exact entry.2.settled_toJson

namespace Declaration

theorem settled_validators (vs : List ValidatorSpec) :
    ∀ f ∈ unlessEmpty "validators" (vs.map ValidatorSpec.settled) ValidatorSpec.toJson, f.2.Settled :=
  settled_unlessEmpty _ (List.forall_mem_map.mpr fun v _ => v.settled_toJson)

theorem Parameter.settled_toJson (p : Parameter) : p.settled.toJson.Settled := by
  refine .object ?_
  simp only [List.forall_mem_append, List.forall_mem_cons]
  exact ⟨⟨.text _, .text _, nofun⟩, settled_validators _⟩

theorem Member.settled_toJson (m : Member) : m.settled.toJson.Settled := by
  refine .object ?_
  simp only [List.forall_mem_append, List.forall_mem_cons]
  exact ⟨⟨⟨⟨⟨⟨settled_optional _ _, settled_optional _ _⟩, .text _, nofun⟩, settled_optional _ _⟩,
    settled_optional _ _⟩, settled_validators _⟩, settled_optional _ _⟩

theorem Method.settled_toJson (m : Method) : m.settled.toJson.Settled := by
  refine .object ?_
  simp only [List.forall_mem_append, List.forall_mem_cons]
  exact ⟨⟨⟨⟨⟨⟨.text _, nofun⟩, settled_unlessEmpty _ (List.forall_mem_map.mpr fun p _ =>
    p.settled_toJson)⟩, settled_optional _ _⟩, settled_validators _⟩,
    settled_unlessEmpty _ fun s _ => .text s⟩, settled_optional _ _⟩

theorem settled_toJson (d : Declaration) : d.settled.toJson.Settled := by
  refine .object ?_
  simp only [List.forall_mem_append, List.forall_mem_cons]
  exact ⟨⟨⟨⟨⟨⟨.text _, nofun⟩, settled_optional _ _⟩, settled_unlessEmpty _ fun s _ => .text s⟩,
    .array (List.forall_mem_map.mpr fun _ _ => .text _),
    .array (List.forall_mem_map.mpr (List.forall_mem_map.mpr fun m _ => m.settled_toJson)), nofun⟩,
    settled_unlessEmpty _ (List.forall_mem_map.mpr fun m _ => m.settled_toJson)⟩,
    settled_optional _ _⟩

theorem canonical_inj {d d' : Declaration} (same : d.canonical = d'.canonical) :
    d.settled = d'.settled := by
  rw [← canonical_settled, ← canonical_settled d'] at same
  exact toJson_injective (Json.compact_injective d.settled_toJson d'.settled_toJson same)

/-- The canonical text tells the whole declaration, but for which float it is where one is no number.
So do digests as far as they tell texts apart, and all of it where all floats are numbers. -/
theorem canonical_eq_iff (d d' : Declaration) :
    (d.canonical = d'.canonical ↔ d.settled = d'.settled) ∧
    (d.IsFinite → d'.IsFinite → (d.canonical = d'.canonical ↔ d = d')) ∧
    ((d.hash = d'.hash → d.canonical = d'.canonical) →
      (d.hash = d'.hash ↔ d.settled = d'.settled) ∧
      (d.IsFinite → d'.IsFinite → (d.hash = d'.hash ↔ d = d'))) := by
  have texts : d.canonical = d'.canonical ↔ d.settled = d'.settled := by
    refine ⟨canonical_inj, fun same => ?_⟩
    rw [← canonical_settled, same, canonical_settled]
  have all (finite : d.IsFinite) (finite' : d'.IsFinite) : d.settled = d'.settled ↔ d = d' := by
    rw [settled_eq_self finite, settled_eq_self finite']
  refine ⟨texts, fun finite finite' => texts.trans (all finite finite'), fun apart => ?_⟩
  have digests : d.hash = d'.hash ↔ d.settled = d'.settled :=
    ⟨fun same => texts.mp (apart same), fun same => congrArg Sha256.hexDigest (texts.mpr same)⟩
  exact ⟨digests, fun finite finite' => digests.trans (all finite finite')⟩

/-- A bound that is infinite and one that is so on the other side are written alike, and differ from
one that is a number. -/
theorem canonical_eq_iff_infinite :
    let bounded (x : Float) : Declaration := ⟨"A", none, [], [], [⟨none, some "x", "f64", none, none,
      [.entries [("greater_than", .float x)]], none⟩], [], none⟩
    let above := Float.ofBits 0x7FF0000000000000
    let below := Float.ofBits 0xFFF0000000000000
    bounded above ≠ bounded below ∧ (bounded above).canonical = (bounded below).canonical ∧
      (bounded above).canonical ≠ (bounded 1.5).canonical := by
  intro bounded above below
  have above' : isFinite above = false := by decide +kernel
  have below' : isFinite below = false := by decide +kernel
  have finite : isFinite 1.5 = true := by decide +kernel
  have settled (x : Float) : (bounded x).settled =
      bounded (if isFinite x then x else Json.noNumber) := rfl
  have apart {x y : Float} (same : bounded x = bounded y) : x = y := by
    injection same with _ _ _ _ members
    injection members with member
    injection member with _ _ _ _ _ validators
    injection validators with validator
    injection validator with parts
    injection parts with part
    injection part with _ argument
    injection argument
  refine ⟨fun same => absurd (apart same) (by decide +kernel), ?_, fun same => ?_⟩
  · rw [(canonical_eq_iff _ _).1, settled, settled, above', below']
    rfl
  · rw [(canonical_eq_iff _ _).1, settled, settled, above', finite] at same
    exact absurd (apart same) (by decide +kernel)

end Declaration

end Companion

import Companion.Proofs.Value.Admission

/-! Which types of the library have an encoding.

A type is accepted for the names and numbers of arguments in it alone. But sets and the keys of maps
also have to be sorted or hashed, which floats and hashed collections cannot be.
-/

set_option autoImplicit false

/-! ### Types whose values have an encoding of their own

No part of such a type is refused, and the collections it is made of can sort or hash what they
hold.
-/

namespace Companion.Leaf

theorem mem_leafScalars_of_scalar? {name : String} {t : Leaf} (h : scalar? name = some t) :
    name ∈ TypeRef.leafScalars ∧ t.components = [] ∧ t.isFormed := by
  unfold scalar? at h
  split at h
  case h_6 =>
    cases t with
    | integer signed width =>
      have same : integerName signed width = name := by simpa using List.find?_some h
      refine ⟨?_, rfl, rfl⟩
      rw [← same]
      cases signed <;> cases width <;> decide
    | _ => cases List.find?_some h
  all_goals
    cases h
    exact ⟨by decide, rfl, rfl⟩

/-- A type with an encoding has as many arguments as its name asks for, each with the encoding
that goes into the whole. -/
theorem arguments_of_ofType? {name : String} {arguments : List TypeRef} {t : Leaf}
    (h : ofType? (.path name arguments) = some t) :
    ofTypes? arguments = some t.components ∧
      (TypeRef.path name arguments).leafArity? = some t.components.length ∧ t.isFormed := by
  have arity : ∀ {s : String}, Text.lastSegment name = s →
      (TypeRef.path name arguments).leafArity? =
        if TypeRef.leafScalars.contains s then some 0
        else if TypeRef.leafContainers.contains s then some 1
        else if TypeRef.maps.contains s then some 2 else none := by
    rintro _ rfl
    rfl
  unfold ofType? at h
  split at h
  case h_9 held =>
    obtain ⟨known, none, formed⟩ := mem_leafScalars_of_scalar? h
    rw [none]
    exact ⟨held, (arity rfl).trans (if_pos (List.elem_eq_true_of_mem known)), formed⟩
  case h_10 => cases h
  -- Collections that sort or hash what they hold ask first whether that allows for it.
  case h_5 named held | h_6 named held | h_7 named held | h_8 named held =>
    obtain ⟨allowed, same⟩ := Option.ite_none_right_eq_some.1 h
    cases same
    exact ⟨held, arity named, allowed⟩
  all_goals
    rename_i named held
    cases h
    exact ⟨held, arity named, rfl⟩

variable (isDeclared : TypeRef → Bool)

mutual

/-- A type with an encoding is accepted, and each of its collections can sort or hash. -/
theorem accepted_of_ofType? : ∀ {T : TypeRef} {t : Leaf}, ofType? T = some t →
    T.missingLeaf? isDeclared = none ∧ ∀ u ∈ t.parts, u.isFormed
  | .path name arguments, t, h => by
    obtain ⟨held, arity, formed⟩ := arguments_of_ofType? h
    obtain ⟨accepted, count, inside⟩ := accepted_of_ofTypes? held
    constructor
    · rw [TypeRef.missingLeaf?, arity]
      simp only [count, if_true, accepted]
    · intro u part
      obtain rfl | ⟨s, component, part⟩ := mem_parts.1 part
      · exact formed
      · exact inside s component u part
  | .reference .., _, h | .slice .., _, h | .array .., _, h | .tuple .., _, h | .unit, _, h
  | .traitObject .., _, h => by cases h

theorem accepted_of_ofTypes? : ∀ {Ts : List TypeRef} {ts : List Leaf}, ofTypes? Ts = some ts →
    TypeRef.firstMissingLeaf? isDeclared Ts = none ∧ Ts.length = ts.length ∧
      ∀ t ∈ ts, ∀ u ∈ t.parts, u.isFormed
  | [], ts, h => by
    cases h
    exact ⟨rfl, rfl, by simp⟩
  | T :: Ts, ts, h => by
    simp only [ofTypes?, Option.bind_eq_bind, Option.bind_eq_some_iff] at h
    obtain ⟨t, first, others, rest, same⟩ := h
    cases same
    obtain ⟨accepted, formed⟩ := accepted_of_ofType? first
    obtain ⟨all, count, inside⟩ := accepted_of_ofTypes? rest
    refine ⟨?_, by simp [count], ?_⟩
    · rw [TypeRef.firstMissingLeaf?, accepted, all]
      rfl
    · exact List.forall_mem_cons.2 ⟨formed, inside⟩

end

end Companion.Leaf

/-! ### Types of the library -/

namespace Companion

namespace TypeRef

mutual

/-- The type and all that it is written with, at any depth. -/
def parts : TypeRef → List TypeRef
  | path name arguments => path name arguments :: partsOf arguments
  | reference lifetime isMutable referent =>
    reference lifetime isMutable referent :: parts referent
  | slice element => slice element :: parts element
  | array element length => array element length :: parts element
  | tuple first others => tuple first others :: (parts first ++ partsOf others)
  | unit => [unit]
  | traitObject bounds => [traitObject bounds]

def partsOf : List TypeRef → List TypeRef
  | [] => []
  | t :: others => parts t ++ partsOf others

end

/-- Library types that say whether they have an encoding. -/
def libraryTypes : List String := leafScalars ++ leafContainers ++ maps ++ foreignTypes

/-- Every name in the type is one of the library. -/
def IsLibrary (t : TypeRef) : Prop :=
  ∀ u ∈ t.parts, u.shape = .path → u.isNamed libraryTypes = true

/-- Collections that tell what they hold apart: by order or by hash. -/
def keyedTypes : List String := ["BTreeSet", "HashSet", "BTreeMap", "HashMap"]

/-- What the type's own members are told apart by: the members of a set, the keys of a map. -/
def key? (t : TypeRef) : Option TypeRef := if t.isNamed keyedTypes then t.arguments.head? else none

/-- Library types with neither an order nor a hash. -/
def keylessTypes : List String := ["f32", "f64", "HashSet", "HashMap"]

/-- No float and no hashed collection is in the type. -/
def IsKey (t : TypeRef) : Prop := ∀ u ∈ t.parts, u.isNamed keylessTypes = false

/-- Every set and map in the type can tell what it holds apart. -/
def HasKeys (t : TypeRef) : Prop := ∀ u ∈ t.parts, ∀ key ∈ u.key?, key.IsKey

instance (t : TypeRef) : Decidable t.IsLibrary := by unfold IsLibrary; infer_instance

instance (t : TypeRef) : Decidable t.IsKey := by unfold IsKey; infer_instance

instance (t : TypeRef) : Decidable t.HasKeys := by unfold HasKeys; infer_instance

variable {name : String} {arguments : List TypeRef} {t u : TypeRef}

theorem mem_partsOf : u ∈ partsOf arguments ↔ ∃ t ∈ arguments, u ∈ t.parts := by
  induction arguments with
  | nil => simp [partsOf]
  | cons t others ih => simp [partsOf, ih]

/-- What holds of all parts of a type holds of the type and of its arguments. -/
theorem forall_parts {P : TypeRef → Prop} :
    (∀ u ∈ t.parts, P u) ↔ P t ∧ ∀ a ∈ t.arguments, ∀ u ∈ a.parts, P u := by
  have inside : t.parts = t :: partsOf t.arguments := by
    cases t <;> simp [parts, partsOf, TypeRef.arguments]
  rw [inside, List.forall_mem_cons]
  refine and_congr_right fun _ => ⟨fun all t member u inside => ?_, fun all u inside => ?_⟩
  · exact all u (mem_partsOf.mpr ⟨t, member, inside⟩)
  · obtain ⟨t, member, inside⟩ := mem_partsOf.mp inside
    exact all t member u inside

theorem forall_parts_path {P : TypeRef → Prop} :
    (∀ u ∈ (path name arguments).parts, P u) ↔
      P (path name arguments) ∧ ∀ t ∈ arguments, ∀ u ∈ t.parts, P u :=
  forall_parts

/-- A library type that is accepted has as many arguments as its name asks for. -/
theorem arity_of_isLibrary {isDeclared : TypeRef → Bool} (library : (path name arguments).IsLibrary)
    (accepted : missingLeaf? isDeclared (path name arguments) = none) :
    leafArity? (path name arguments) = some arguments.length ∧
      firstMissingLeaf? isDeclared arguments = none := by
  have known := (forall_parts_path.mp library).1 rfl
  rw [missingLeaf?] at accepted
  cases arity : leafArity? (path name arguments) with
  | some count =>
    simp only [arity] at accepted
    split at accepted
    · next same => exact ⟨by rw [same], accepted⟩
    · cases accepted
  | none =>
    -- A name that asks for no number of arguments is one of the foreign ones.
    exfalso
    have foreign : (path name arguments).isForeign = true := by
      simp only [libraryTypes, isNamed, List.contains_iff_mem, List.mem_append] at known
      simp only [leafArity?, isNamed, List.contains_iff_mem] at arity
      simp only [isForeign, isNamed, Bool.or_eq_true, List.contains_iff_mem]
      left
      rcases known with ((scalar | container) | map) | foreign
      · rw [if_pos scalar] at arity
        cases arity
      · rw [if_pos container] at arity
        split_ifs at arity
      · rw [if_pos map] at arity
        split_ifs at arity
      · exact foreign
    simp only [arity, foreign, Bool.true_or, if_true] at accepted
    cases accepted

theorem accepted_of_firstMissingLeaf? {isDeclared : TypeRef → Bool}
    (accepted : firstMissingLeaf? isDeclared arguments = none) :
    ∀ t ∈ arguments, missingLeaf? isDeclared t = none := by
  induction arguments with
  | nil => simp
  | cons t others ih =>
    rw [firstMissingLeaf?, Option.or_eq_none_iff] at accepted
    exact List.forall_mem_cons.mpr ⟨accepted.1, ih accepted.2⟩

end TypeRef

namespace Leaf

open TypeRef (libraryTypes keyedTypes keylessTypes)

/-! ### Keys -/

/-- Whether the type itself has an order, if what it is made of has one. -/
def sorts : Leaf → Bool
  | float _ | set false _ | map false _ _ => false
  | _ => true

theorem isOrdered_iff {t : Leaf} :
    t.isOrdered = true ↔ t.sorts = true ∧ ∀ u ∈ t.components, u.isOrdered = true := by
  cases t with
  | set ordered t => cases ordered <;> simp [isOrdered, sorts, components]
  | map ordered k t => cases ordered <;> simp [isOrdered, sorts, components]
  | _ => simp [isOrdered, sorts, components]

theorem sorts_of_scalar? {name : String} {t : Leaf} (h : scalar? name = some t) :
    keylessTypes.contains name = !t.sorts := by
  have all : ∀ s ∈ TypeRef.leafScalars, ∀ t ∈ scalar? s, keylessTypes.contains s = !t.sorts := by
    decide
  exact all name (mem_leafScalars_of_scalar? h).1 t h

/-- The name of a type with an encoding says whether the type sorts. -/
theorem sorts_of_ofType? {name : String} {arguments : List TypeRef} {t : Leaf}
    (h : ofType? (.path name arguments) = some t) :
    (TypeRef.path name arguments).isNamed keylessTypes = !t.sorts := by
  rw [TypeRef.isNamed]
  unfold ofType? at h
  split at h
  case h_9 => exact sorts_of_scalar? h
  case h_10 => cases h
  -- Sets and maps come with a check of their keys, the other containers without.
  case h_5 named held | h_6 named held | h_7 named held | h_8 named held =>
    obtain ⟨-, same⟩ := Option.ite_none_right_eq_some.1 h
    cases same
    rw [named]
    rfl
  all_goals
    rename_i named held
    cases h
    rw [named]
    rfl

mutual

/-- Values of a type with an encoding have an order exactly if the type is written without floats
and hashed collections. -/
theorem isOrdered_iff_isKey : ∀ {T : TypeRef} {t : Leaf}, ofType? T = some t →
    (t.isOrdered = true ↔ T.IsKey)
  | .path name arguments, t, h => by
    obtain ⟨held, -, -⟩ := arguments_of_ofType? h
    rw [isOrdered_iff, areOrdered_iff_areKeys held, TypeRef.IsKey, TypeRef.forall_parts_path,
      sorts_of_ofType? h, Bool.not_eq_false']
    rfl
  | .reference .., _, h | .slice .., _, h | .array .., _, h | .tuple .., _, h | .unit, _, h
  | .traitObject .., _, h => by cases h

theorem areOrdered_iff_areKeys : ∀ {Ts : List TypeRef} {ts : List Leaf}, ofTypes? Ts = some ts →
    ((∀ t ∈ ts, t.isOrdered = true) ↔ ∀ T ∈ Ts, T.IsKey)
  | [], ts, h => by
    cases h
    simp
  | T :: Ts, ts, h => by
    simp only [ofTypes?, Option.bind_eq_bind, Option.bind_eq_some_iff] at h
    obtain ⟨t, first, others, rest, same⟩ := h
    cases same
    rw [List.forall_mem_cons, List.forall_mem_cons, isOrdered_iff_isKey first,
      areOrdered_iff_areKeys rest]

end

/-- What tells the members of a type apart has an order exactly if it is a key. -/
theorem isOrdered_head_iff {name : String} {arguments : List TypeRef} {ts : List Leaf}
    (held : ofTypes? arguments = some ts) :
    ((TypeRef.path name arguments).isNamed keyedTypes = true →
      ∀ k ∈ ts.head?, k.isOrdered = true) ↔
        ∀ key ∈ (TypeRef.path name arguments).key?, key.IsKey := by
  rw [TypeRef.key?]
  split_ifs with keyed
  · cases arguments with
    | nil =>
      cases held
      simp [TypeRef.arguments]
    | cons T Ts =>
      simp only [ofTypes?, Option.bind_eq_bind, Option.bind_eq_some_iff] at held
      obtain ⟨t, first, others, -, same⟩ := held
      cases same
      simp [TypeRef.arguments, keyed, isOrdered_iff_isKey first]
  · simp [keyed]

/-! ### Encodings -/

theorem exists_scalar {name : String} (known : name ∈ TypeRef.leafScalars) :
    ∃ t, scalar? name = some t := by
  have all : ∀ s ∈ TypeRef.leafScalars, (scalar? s).isSome = true := by decide
  exact Option.isSome_iff_exists.mp (all name known)

/-- A name without arguments stands for a scalar. -/
theorem ofType?_nil (name : String) : ofType? (.path name []) = scalar? (Text.lastSegment name) := by
  rw [ofType?, ofTypes?]
  split <;> simp_all

/-- A type has an encoding if its arguments have, and if its own members can be told apart. -/
theorem exists_ofType_path_iff {name : String} {arguments : List TypeRef}
    (arity : (TypeRef.path name arguments).leafArity? = some arguments.length) :
    (∃ t, ofType? (.path name arguments) = some t) ↔
      ∃ ts, ofTypes? arguments = some ts ∧ ((TypeRef.path name arguments).isNamed keyedTypes = true →
        ∀ k ∈ ts.head?, k.isOrdered = true) := by
  rw [TypeRef.leafArity?] at arity
  split_ifs at arity with scalar container map
  · obtain rfl : arguments = [] := List.eq_nil_of_length_eq_zero (Option.some.inj arity).symm
    have known := exists_scalar (List.contains_iff_mem.mp scalar)
    rw [ofType?_nil]
    exact ⟨fun _ => ⟨[], rfl, nofun⟩, fun _ => known⟩
  · obtain ⟨a, rfl⟩ := List.length_eq_one_iff.mp (Option.some.inj arity).symm
    simp only [TypeRef.isNamed, List.contains_iff_mem, TypeRef.leafContainers, List.mem_cons,
      List.not_mem_nil, or_false] at container
    cases held : ofType? a with
    | none =>
      rcases container with named | named | named | named | named | named <;>
        simp [ofType?, ofTypes?, held, named]
    | some t =>
      rcases container with named | named | named | named | named | named <;>
        simp [ofType?, ofTypes?, held, named, TypeRef.isNamed, keyedTypes, isHashable_eq_isOrdered]
  · obtain ⟨k, a, rfl⟩ := List.length_eq_two.mp (Option.some.inj arity).symm
    simp only [TypeRef.isNamed, List.contains_iff_mem, TypeRef.maps, List.mem_cons,
      List.not_mem_nil, or_false] at map
    cases key : ofType? k with
    | none => rcases map with named | named <;> simp [ofType?, ofTypes?, key, named]
    | some s =>
      cases held : ofType? a with
      | none => rcases map with named | named <;> simp [ofType?, ofTypes?, key, held, named]
      | some t =>
        rcases map with named | named <;>
          simp [ofType?, ofTypes?, key, held, named, TypeRef.isNamed, keyedTypes,
            isHashable_eq_isOrdered]

variable {isDeclared : TypeRef → Bool}

mutual

/-- An accepted library type has an encoding exactly if all sets and maps in it have keys. -/
theorem exists_ofType_iff_hasKeys : ∀ {T : TypeRef}, T.IsLibrary →
    T.missingLeaf? isDeclared = none → ((∃ t, ofType? T = some t) ↔ T.HasKeys)
  | .path name arguments, library, accepted => by
    obtain ⟨arity, inner⟩ := TypeRef.arity_of_isLibrary library accepted
    have inside := exists_ofTypes_iff_haveKeys (TypeRef.forall_parts_path.mp library).2
      (TypeRef.accepted_of_firstMissingLeaf? inner)
    rw [exists_ofType_path_iff arity, TypeRef.HasKeys, TypeRef.forall_parts_path]
    constructor
    · rintro ⟨ts, held, ordered⟩
      exact ⟨(isOrdered_head_iff held).mp ordered, inside.mp ⟨ts, held⟩⟩
    · rintro ⟨own, below⟩
      obtain ⟨ts, held⟩ := inside.mpr below
      exact ⟨ts, held, (isOrdered_head_iff held).mpr own⟩
  | .reference .., _, accepted | .slice .., _, accepted | .array .., _, accepted
  | .tuple .., _, accepted | .unit, _, accepted | .traitObject .., _, accepted => by cases accepted

theorem exists_ofTypes_iff_haveKeys : ∀ {Ts : List TypeRef}, (∀ T ∈ Ts, T.IsLibrary) →
    (∀ T ∈ Ts, T.missingLeaf? isDeclared = none) →
    ((∃ ts, ofTypes? Ts = some ts) ↔ ∀ T ∈ Ts, T.HasKeys)
  | [], _, _ => ⟨fun _ => nofun, fun _ => ⟨[], rfl⟩⟩
  | T :: Ts, library, accepted => by
    obtain ⟨first, rest⟩ := List.forall_mem_cons.mp library
    obtain ⟨first', rest'⟩ := List.forall_mem_cons.mp accepted
    rw [List.forall_mem_cons, ← exists_ofType_iff_hasKeys first first',
      ← exists_ofTypes_iff_haveKeys rest rest']
    simp only [ofTypes?, Option.bind_eq_bind, Option.bind_eq_some_iff]
    constructor
    · rintro ⟨_, t, held, others, known, -⟩
      exact ⟨⟨t, held⟩, others, known⟩
    · rintro ⟨⟨t, held⟩, others, known⟩
      exact ⟨t :: others, t, held, others, known, rfl⟩

end

/-- A type of library names has an encoding exactly if it is accepted and no set or key in it is
made of floats or hashed collections. Names and numbers of arguments are all that is asked before it
is accepted. -/
theorem encoded_iff_hasKeys (isDeclared : TypeRef → Bool) {T : TypeRef} (library : T.IsLibrary) :
    (∃ t, ofType? T = some t) ↔ T.missingLeaf? isDeclared = none ∧ T.HasKeys := by
  constructor
  · rintro ⟨t, held⟩
    have accepted := (accepted_of_ofType? isDeclared held).1
    exact ⟨accepted, (exists_ofType_iff_hasKeys library accepted).mp ⟨t, held⟩⟩
  · rintro ⟨accepted, keys⟩
    exact (exists_ofType_iff_hasKeys library accepted).mpr keys

/-- Lists of floats can be the values of a map. A set of floats is accepted too, deep in another
type, and has no encoding. -/
theorem encoded_iff_hasKeys_floats :
    let float : TypeRef := .path "f64" []
    let lists : TypeRef := .path "BTreeMap" [.path "String" [], .path "Vec" [float]]
    let sets : TypeRef := .path "Vec" [.path "std::collections::HashSet" [float]]
    (lists.IsLibrary ∧ ∃ t, ofType? lists = some t) ∧
      (sets.IsLibrary ∧ sets.missingLeaf? (fun _ => false) = none ∧ ¬∃ t, ofType? sets = some t) := by
  intro float lists sets
  have library : lists.IsLibrary ∧ sets.IsLibrary := by decide
  have accepted : lists.missingLeaf? (fun _ => false) = none ∧
      sets.missingLeaf? (fun _ => false) = none := by decide
  refine ⟨⟨library.1, ?_⟩, library.2, accepted.2, ?_⟩
  · exact (encoded_iff_hasKeys (fun _ => false) library.1).mpr ⟨accepted.1, by decide⟩
  · rw [encoded_iff_hasKeys (fun _ => false) library.2]
    decide

end Leaf

end Companion

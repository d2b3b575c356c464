import Companion.Proofs.Generate.Agreement
import Companion.Proofs.Model.Methods
import Companion.Proofs.Model.Visibility
import Mathlib.Data.List.Nodup

/-! The names that a concrete type introduces.

Only the fields of a declaration are looked at when its model is built, each with those before it.
Caches are named after methods, methods stand beside accessors, and both lists are as long as the
declaration has it.
-/

set_option autoImplicit false

namespace Companion

open Step

/-! ### Names of a model -/

namespace Model

/-- The methods whose results are kept. -/
def cachedMethods (m : Model) : List Method := m.methods.filter Method.isCached

/-- No name that the concrete type introduces is introduced twice. -/
structure NamesApart (m : Model) : Prop where
  /-- The fields of the type: those of the declaration, then caches. -/
  stored : (m.fields.map (·.name) ++ m.cachedMethods.map (·.cacheField)).Nodup
  /-- The functions that it has for its trait. -/
  functions : (m.fields.filterMap (·.accessor) ++ m.wovenMethods.map (·.name)).Nodup
  parameters : ∀ method ∈ m.wovenMethods, (method.parameters.map (·.name)).Nodup

/-- What a declaration itself has to see to: its methods have names of their own, which are no
accessors and name no caches that are fields already, and so have the parameters of each. -/
structure MethodsApart (m : Model) : Prop where
  methods : (m.wovenMethods.map (·.name)).Nodup
  accessors : ∀ f ∈ m.fields, ∀ method ∈ m.wovenMethods, f.accessor ≠ some method.name
  caches : ∀ f ∈ m.fields, ∀ method ∈ m.cachedMethods, f.name ≠ method.cacheField
  parameters : ∀ method ∈ m.wovenMethods, (method.parameters.map (·.name)).Nodup

instance (m : Model) : Decidable m.MethodsApart :=
  decidable_of_iff ((m.wovenMethods.map (·.name)).Nodup ∧
      (∀ f ∈ m.fields, ∀ method ∈ m.wovenMethods, f.accessor ≠ some method.name) ∧
      (∀ f ∈ m.fields, ∀ method ∈ m.cachedMethods, f.name ≠ method.cacheField) ∧
      ∀ method ∈ m.wovenMethods, (method.parameters.map (·.name)).Nodup)
    ⟨fun ⟨methods, accessors, caches, parameters⟩ => ⟨methods, accessors, caches, parameters⟩,
      fun apart => ⟨apart.methods, apart.accessors, apart.caches, apart.parameters⟩⟩

variable {batch : Batch} {source : DeclarationSource} {d : Declaration} {model : Model}
  {maxCacheArity : Nat} {l : Location}

/-- A field that is read by an accessor is named after it. -/
theorem name_of_checkField {member : Declaration.Member} {f : Field} {accessor : String}
    (checked : (checkField batch l member).value = some f) (reads : f.accessor = some accessor) :
    f.name = Naming.fieldOfAccessor accessor := by
  have named := (isOf_of_checkField checked).named
  rw [reads] at named
  unfold memberName at named
  split at named
  next =>
    obtain ⟨same, rfl⟩ : Naming.fieldOfAccessor _ = f.name ∧ _ = accessor := by simpa using named
    exact same.symm
  next => simp at named
  next => cases named
  next => cases named

theorem name_of_accessor (built : (ofDeclaration batch source d).value = some model) {f : Field}
    {accessor : String} (member : f ∈ model.fields) (reads : f.accessor = some accessor) :
    f.name = Naming.fieldOfAccessor accessor := by
  obtain ⟨_, _, checked⟩ := exists_checkField built member
  exact name_of_checkField checked reads

/-- Fields with names of their own have accessors of their own. -/
theorem nodup_accessors (built : (ofDeclaration batch source d).value = some model) :
    (model.fields.filterMap (·.accessor)).Nodup := by
  have named : ∀ f ∈ model.fields, ∀ accessor ∈ f.accessor,
      f.name = Naming.fieldOfAccessor accessor := fun f member accessor reads =>
    name_of_accessor built member reads
  have apart := names_of_ofDeclaration built
  -- Two accessors that are alike would give their fields one name.
  generalize model.fields = fields at named apart
  induction fields with
  | nil => exact List.nodup_nil
  | cons f fields ih =>
    obtain ⟨first, rest⟩ := List.forall_mem_cons.mp named
    obtain ⟨fresh, apart⟩ := List.nodup_cons.mp apart
    rw [List.filterMap_cons]
    cases reads : f.accessor with
    | none => exact ih rest apart
    | some accessor =>
      refine List.nodup_cons.mpr ⟨fun again => ?_, ih rest apart⟩
      obtain ⟨other, member, same⟩ := List.mem_filterMap.mp again
      have named : f.name = other.name :=
        (first accessor reads).trans (rest other member accessor same).symm
      exact fresh (List.mem_map.mpr ⟨other, member, named.symm⟩)

/-- What caches are named by keeps names apart. -/
theorem suffix_injective (suffix : String) : Function.Injective fun name => name ++ suffix := by
  intro a b same
  have lists := congrArg String.toList same
  rw [String.toList_append, String.toList_append] at lists
  exact String.toList_injective (List.append_cancel_right lists)

theorem woven_of_cached {method : Method} (cached : method.isCached = true) :
    method.isWoven = true := by
  have listed := List.contains_iff_mem.mp cached
  simp [Method.isWoven, List.ne_nil_of_mem listed]

theorem cachedMethods_eq (m : Model) :
    m.cachedMethods = m.wovenMethods.filter Method.isCached := by
  rw [cachedMethods, wovenMethods, List.filter_filter]
  refine List.filter_congr fun method _ => ?_
  cases cached : method.isCached
  · rfl
  · rw [woven_of_cached cached, Bool.and_self]

/-- A model that was built has no two names alike exactly if its methods see to that. -/
theorem namesApart_iff_methodsApart (built : (ofDeclaration batch source d).value = some model) :
    model.NamesApart ↔ model.MethodsApart := by
  constructor
  · intro apart
    have stored := List.nodup_append.mp apart.stored
    have functions := List.nodup_append.mp apart.functions
    refine ⟨functions.2.1, ?_, ?_, apart.parameters⟩
    · intro f member method woven reads
      exact functions.2.2 _ (List.mem_filterMap.mpr ⟨f, member, reads⟩) _
        (List.mem_map_of_mem woven) rfl
    · intro f member method cached
      exact stored.2.2 _ (List.mem_map_of_mem member) _ (List.mem_map_of_mem cached)
  · intro apart
    refine ⟨List.nodup_append.mpr ⟨names_of_ofDeclaration built, ?_, ?_⟩,
      List.nodup_append.mpr ⟨nodup_accessors built, apart.methods, ?_⟩, apart.parameters⟩
    · have names : (model.cachedMethods.map (·.name)).Nodup := by
        rw [cachedMethods_eq]
        exact apart.methods.sublist (List.filter_sublist.map _)
      have caches := names.map (suffix_injective "_cache")
      rwa [List.map_map] at caches
    · intro name member cache cached same
      obtain ⟨f, listed, rfl⟩ := List.mem_map.mp member
      obtain ⟨method, keeps, rfl⟩ := List.mem_map.mp cached
      exact apart.caches f listed method keeps same
    · intro accessor member name woven same
      obtain ⟨f, listed, reads⟩ := List.mem_filterMap.mp member
      obtain ⟨method, overrides, rfl⟩ := List.mem_map.mp woven
      exact apart.accessors f listed method overrides (same ▸ reads)

/-! ### Interceptors -/

theorem nodup_interceptors_of_checkMethod {method : Declaration.Method} {m : Method}
    (checked : (checkMethod maxCacheArity l method).value = some m) : m.interceptors.Nodup := by
  obtain ⟨kinds, -, kept⟩ := (isOf_of_checkMethod checked).interceptors
  exact (nodup_eraseDups kinds).sublist kept

theorem nodup_interceptors (built : (ofDeclaration batch source d).value = some model) {m : Method}
    (member : m ∈ model.methods) : m.interceptors.Nodup := by
  obtain ⟨_, _, checked⟩ := exists_checkMethod built member
  exact nodup_interceptors_of_checkMethod checked

/-- The field that keeps the results of a method, if they are kept. -/
theorem flatMap_state {m : Method} (once : m.interceptors.Nodup) :
    m.interceptors.flatMap (·.state m) =
      if m.isCached then Interceptor.cached.state m else [] := by
  unfold Method.isCached
  generalize m.interceptors = kinds at once
  induction kinds with
  | nil => rfl
  | cons kind others ih =>
    obtain ⟨fresh, once⟩ := List.nodup_cons.mp once
    rw [List.flatMap_cons, ih once]
    cases kind with
    | cached =>
      -- The cache is asked for once, so the others have none.
      rw [if_neg (by simpa using fresh)]
      simp
    | logged => simp [Interceptor.state]

end Model

/-! ### Names in the unit -/

namespace Generation

variable {g : Generation} {batch : Batch} {source : DeclarationSource} {d : Declaration}

/-- A field of the declaration in the type. Those that no accessor reads are open to all. -/
def fieldText (f : Model.Field) : String :=
  (if f.accessor.isSome then "" else "pub ") ++ f.value.text

/-- The field that keeps the results of a method. -/
def cacheText (m : Model.Method) : String :=
  m.cacheField ++ ": " ++ ("::std::cell::RefCell<::std::collections::HashMap<" ++
    m.cacheKey.1.render ++ ", " ++ m.returns.render ++ ">>")

/-- The signature of the function that reads a field. -/
def accessorText (f : Model.Field) : Option String :=
  f.accessor.map fun accessor => "fn " ++ accessor ++ "(&self) -> " ++ f.type.render

/-- A concrete type has fields under the names of its model and, besides a constructor and equality,
functions under them. -/
structure Introduces (g : Generation) (steps : List Step) : Prop where
  fields : fieldTexts steps = g.model.fields.map fieldText ++ g.model.cachedMethods.map cacheText
  functions : ∃ equality, (functions steps).map Prod.fst =
    g.constructorText (g.model.inputs.map (·.parameter)) ::
      (g.model.fields.filterMap accessorText ++ g.model.wovenMethods.map (·.signature) ++
        equality) ∧ ∀ text ∈ equality, text = "fn eq(&self, other: &Self) -> bool"

theorem fieldTexts_append (steps others : List Step) :
    fieldTexts (steps ++ others) = fieldTexts steps ++ fieldTexts others := List.filterMap_append

theorem fieldTexts_block (kind : BlockKind) (opener : String) (inner : List Step) :
    fieldTexts (block kind opener inner) = fieldTexts inner := by
  rw [block, List.cons_append, fieldTexts, List.filterMap_cons]
  exact (fieldTexts_append inner [.leave]).trans (List.append_nil _)

theorem fieldTexts_flatMap {α : Type} (f : α → List Step) (xs : List α) :
    fieldTexts (xs.flatMap f) = xs.flatMap fun x => fieldTexts (f x) := List.filterMap_flatMap ..

theorem fieldTexts_statements {steps : List Step} (all : ∀ s ∈ steps, ∃ text, s = .statement text) :
    fieldTexts steps = [] := by
  refine List.filterMap_eq_nil_iff.mpr fun s member => ?_
  obtain ⟨text, rfl⟩ := all s member
  rfl

theorem fieldTexts_structSteps (g : Generation) (state : List StateField) :
    fieldTexts (g.structSteps state) =
      g.model.fields.map fieldText ++ state.map fun s => s.name ++ ": " ++ s.type := by
  have own (f : Model.Field) : fieldTexts (fieldSteps f) = [fieldText f] := by
    simp [fieldTexts, fieldSteps, documentation, fieldText, TypedName.text, Model.Field.value,
      String.append_assoc]
  have added : fieldTexts (state.map fun s => .field (s.name ++ ": " ++ s.type)) =
      state.map fun s => s.name ++ ": " ++ s.type := by
    simp only [fieldTexts, List.filterMap_map]
    exact congrFun List.filterMap_eq_map _
  have notes : fieldTexts (documentation g.model.description) = [] := by
    simp [fieldTexts, documentation]
  rw [structSteps, fieldTexts_append, fieldTexts_append, notes, fieldTexts_block,
    fieldTexts_append, fieldTexts_flatMap, added]
  simp only [own, List.map_eq_flatMap]
  rfl

/-- Only the type itself has fields. -/
theorem fieldTexts_subclassSteps (g : Generation) (methods : List WovenMethod) :
    fieldTexts (g.subclassSteps methods) = g.model.fields.map fieldText ++
      (methods.flatMap (·.stateFields)).map fun s => s.name ++ ": " ++ s.type := by
  -- All other blocks of the type have statements, items and functions, but no fields.
  have constructor (state : List StateField) : fieldTexts (g.constructorSteps state) = [] := by
    have allowed (many : Prop) [Decidable many] (text : String) :
        fieldTexts (if many then [.note text] else []) = [] := by split <;> rfl
    have defaults : fieldTexts (g.model.inputs.filterMap defaultStep) = [] := by
      refine fieldTexts_statements fun s member => ?_
      obtain ⟨f, -, found⟩ := List.mem_filterMap.mp member
      obtain ⟨e, -, rfl⟩ := Option.map_eq_some_iff.mp found
      exact ⟨_, rfl⟩
    have derivations : fieldTexts (g.model.derivedFields.filterMap derivationStep) = [] := by
      refine fieldTexts_statements fun s member => ?_
      obtain ⟨f, -, found⟩ := List.mem_filterMap.mp member
      obtain ⟨e, -, rfl⟩ := Option.map_eq_some_iff.mp found
      exact ⟨_, rfl⟩
    have checks (fields : List Model.Field) : fieldTexts (fields.flatMap g.checkSteps) = [] := by
      refine fieldTexts_statements fun s member => ?_
      obtain ⟨f, -, inside⟩ := List.mem_flatMap.mp member
      obtain ⟨c, -, rfl⟩ := List.mem_map.mp inside
      exact ⟨_, rfl⟩
    simp only [constructorSteps, fieldTexts_append, fieldTexts_block, allowed, defaults, checks,
      derivations]
    rfl
  have accessors : fieldTexts (g.model.fields.flatMap accessorSteps) = [] := by
    rw [fieldTexts_flatMap, List.flatMap_eq_nil_iff]
    intro f _
    unfold accessorSteps
    split <;> rfl
  have overridden : fieldTexts (methods.flatMap methodSteps) = [] := by
    rw [fieldTexts_flatMap, List.flatMap_eq_nil_iff]
    intro m _
    rw [methodSteps, fieldTexts_block]
    refine fieldTexts_statements fun s member => ?_
    obtain ⟨text, -, rfl⟩ := List.mem_map.mp member
    exact ⟨text, rfl⟩
  have equality (derived : Bool) :
      fieldTexts (if derived then [] else .blank :: g.equalitySteps) = [] := by
    cases derived <;> rfl
  simp only [subclassSteps, fieldTexts_append, fieldTexts_block, fieldTexts_structSteps,
    constructor, accessors, overridden, equality]
  simp [fieldTexts]

/-- Interceptors add what keeps results to the type, for each method whose results are kept. -/
theorem stateFields_of_woven (built : (Model.ofDeclaration batch source d).value = some g.model)
    {methods : List WovenMethod} (woven : g.woven = .ok methods) :
    methods.flatMap (·.stateFields) =
      g.model.cachedMethods.flatMap fun m => Interceptor.cached.state m := by
  have each : methods.map (·.stateFields) = g.model.wovenMethods.map fun m =>
      if m.isCached then Interceptor.cached.state m else [] := by
    refine map_eq_of_mapM woven fun m member w weaves => ?_
    rw [Model.Method.stateFields_of_weave weaves, Model.flatMap_state]
    exact Model.nodup_interceptors built (List.mem_of_mem_filter member)
  rw [List.flatMap_def, each, ← List.flatMap_def, Model.cachedMethods_eq]
  induction g.model.wovenMethods with
  | nil => rfl
  | cons m others ih =>
    rw [List.flatMap_cons, ih, List.filter_cons]
    cases m.isCached <;> rfl

/-- That is one field for each of them. -/
theorem cacheTexts_of_woven (built : (Model.ofDeclaration batch source d).value = some g.model)
    {methods : List WovenMethod} (woven : g.woven = .ok methods) :
    ((methods.flatMap (·.stateFields)).map fun s => s.name ++ ": " ++ s.type) =
      g.model.cachedMethods.map cacheText := by
  rw [stateFields_of_woven built woven, List.map_flatMap, List.map_eq_flatMap]
  rfl

theorem introduces_of_steps (built : (Model.ofDeclaration batch source d).value = some g.model)
    {steps : List Step} (known : g.steps .subclass = .ok steps) : g.Introduces steps := by
  obtain ⟨methods, woven, same⟩ := bind_eq_ok.mp known
  cases same
  obtain ⟨equality, declares, named⟩ := g.declares_subclassSteps methods
  refine ⟨?_, equality.map Prod.fst, ?_, ?_⟩
  · rw [fieldTexts_subclassSteps, cacheTexts_of_woven built woven]
  · have signatures : methods.map (·.signature) = g.model.wovenMethods.map (·.signature) :=
      map_eq_of_mapM woven fun m _ w weaves => Model.Method.signature_of_weave weaves
    have accessors : (g.model.fields.flatMap accessorFunctions).map Prod.fst =
        g.model.fields.filterMap accessorText := by
      induction g.model.fields with
      | nil => rfl
      | cons f others ih =>
        rw [List.flatMap_cons, List.map_append, ih, List.filterMap_cons]
        unfold accessorFunctions accessorText
        cases f.accessor <;> rfl
    rw [declares.functions_eq, ← signatures]
    simp [accessors, methodFunction]
  · intro text member
    obtain ⟨f, listed, rfl⟩ := List.mem_map.mp member
    exact named f listed

/-- The names in the concrete type of any model that was built are those of its fields, caches,
accessors and methods. Its fields are kept apart by the checks of the declaration, and so are its
accessors; no other two names are alike exactly if the methods of the declaration see to that. -/
theorem names_apart_iff (built : (Model.ofDeclaration batch source d).value = some g.model) :
    (∀ steps, g.steps .subclass = .ok steps → g.Introduces steps) ∧
      (g.model.NamesApart ↔ g.model.MethodsApart) :=
  ⟨fun _ known => introduces_of_steps built known, Model.namesApart_iff_methodsApart built⟩

/-- A field beside a cache, and one that has the name of the cache. Both declarations get a model. -/
theorem names_apart_iff_shape :
    let shape (field : String) : Declaration := ⟨"Shape", none, [], [],
      [⟨none, some field, "f64", none, none, [], none⟩],
      [⟨"area", [], some "f64", [], ["cached"], some "1.0"⟩], none⟩
    let build (field : String) : Option Model :=
      (Model.ofDeclaration (.ofDeclarations ⟨8, "Subclass"⟩ [shape field])
        ⟨none, default, [shape field]⟩ (shape field)).value
    (∃ m, build "side" = some m ∧ m.NamesApart) ∧
      ∃ m, build "area_cache" = some m ∧ ¬m.NamesApart := by
  intro shape build
  have apart : (build "side").map (fun m => decide m.MethodsApart) = some true := by decide +kernel
  have clash : (build "area_cache").map (fun m => decide m.MethodsApart) = some false := by
    decide +kernel
  have named {m : Model} (field : String) (built : build field = some m) :=
    (names_apart_iff (g := ⟨m, default, .standard, "::declgen::runtime", 8⟩) built).2
  obtain ⟨m, built, fine⟩ := Option.map_eq_some_iff.mp apart
  obtain ⟨m', built', clashes⟩ := Option.map_eq_some_iff.mp clash
  exact ⟨⟨m, built, (named _ built).mpr (of_decide_eq_true fine)⟩,
    m', built', mt (named _ built').mp (of_decide_eq_false clashes)⟩

end Generation

end Companion

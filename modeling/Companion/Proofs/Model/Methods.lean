import Companion.Proofs.Diagnostic.Reports
import Companion.Proofs.Intercept.Weave
import Companion.Proofs.Model.Build

/-! What a model promises of its methods: all that interceptors ask of them. -/

set_option autoImplicit false

namespace Companion.Model

variable {batch : Batch} {source : DeclarationSource} {d : Declaration} {model : Model}
  {maxCacheArity : Nat} {l : Location} {m m' : Method}

/-- A method that can be woven, and whose results can be cached if they are to be. -/
structure Method.Fits (maxCacheArity : Nat) (m : Method) : Prop where
  body : m.isWoven = true → m.body ≠ none
  arity : m.isCached = true → m.parameters.length ≤ maxCacheArity
  result : m.isCached = true → m.returns.isUnit = false

theorem body_of_checkWeaving (checked : (checkWeaving m).value = some m') :
    m' = m ∧ (m.isWoven = true → m.body ≠ none) := by
  unfold checkWeaving at checked
  split at checked
  · split at checked
    · cases checked
    · next body given =>
      simp only [Checked.value_map, Option.map_eq_some_iff] at checked
      obtain ⟨-, -, rfl⟩ := checked
      exact ⟨rfl, fun _ none => by rw [given] at none; cases none⟩
  · next plain =>
    cases checked
    exact ⟨rfl, fun woven => absurd woven plain⟩

/-- Leaving interceptors out leaves no more to be woven. -/
theorem isWoven_of_filter {keep : Interceptor → Bool}
    (woven : Method.isWoven { m with interceptors := m.interceptors.filter keep } = true) :
    m.isWoven = true := by
  simp only [Method.isWoven, Bool.or_eq_true, Bool.not_eq_true',
    List.isEmpty_eq_false_iff] at woven ⊢
  refine woven.imp_left (Or.imp_left fun some none => some ?_)
  rw [none, List.filter_nil]

/-- A check of caches leaves a method as it is, if its results can be kept, or takes its cache away. -/
theorem checkCaching_cases (checked : (checkCaching maxCacheArity m).value = some m') :
    (m' = m ∧ (m.isCached = true →
      m.parameters.length ≤ maxCacheArity ∧ m.returns.isUnit = false)) ∨
      m' = { m with interceptors := m.interceptors.filter (· ≠ .cached) } := by
  unfold checkCaching at checked
  split_ifs at checked with plain many unit
  · cases checked
    exact .inl ⟨rfl, fun cached => by simp [cached] at plain⟩
  · cases checked
  · cases checked
    exact .inr rfl
  · rw [Checked.value_map, Option.map_eq_some_iff] at checked
    obtain ⟨-, -, rfl⟩ := checked
    exact .inl ⟨rfl, fun _ => ⟨Nat.le_of_not_lt many, by simpa using unit⟩⟩

theorem fits_of_checkCaching (body : m.isWoven = true → m.body ≠ none)
    (checked : (checkCaching maxCacheArity m).value = some m') : m'.Fits maxCacheArity := by
  obtain ⟨rfl, caches⟩ | rfl := checkCaching_cases checked
  · exact ⟨body, fun cached => (caches cached).1, fun cached => (caches cached).2⟩
  · have notCached : ¬Method.isCached
        { m with interceptors := m.interceptors.filter (· ≠ .cached) } = true := by
      simp [Method.isCached]
    exact ⟨fun woven => body (isWoven_of_filter woven), fun cached => absurd cached notCached,
      fun cached => absurd cached notCached⟩

/-- A check of caches takes away interceptors, and adds none. -/
theorem sublist_of_checkCaching (checked : (checkCaching maxCacheArity m).value = some m') :
    m'.interceptors.Sublist m.interceptors := by
  obtain ⟨rfl, -⟩ | rfl := checkCaching_cases checked
  · exact .refl _
  · exact List.filter_sublist

/-- What was checked of a parameter, and what it keeps. -/
structure Parameter.IsOf (l : Location) (method : String) (declared : Declaration.Parameter)
    (p : Parameter) : Prop where
  named : (checkIdentifier p.location p.name).value = some ()
  parsed : TypeRef.parse declared.type = .ok p.type
  validators : (checkValidators p.location declared.validators).value = some p.validators
  location : p.location = l.withMember (method ++ "(" ++ declared.name ++ ")")

theorem isOf_of_checkParameter {method : String} {declared : Declaration.Parameter} {p : Parameter}
    (checked : (checkParameter l method declared).value = some p) :
    p.IsOf l method declared := by
  simp only [checkParameter, Checked.value_seq, Checked.value_map, Option.bind_eq_some_iff,
    Option.map_eq_some_iff] at checked
  obtain ⟨_, ⟨_, ⟨_, typed, rfl⟩, _, named, rfl⟩, _, validators, rfl⟩ := checked
  exact ⟨named, parse_of_checkType typed, validators, rfl⟩

/-- What was checked of a method, and what it keeps. A check of caches takes away an interceptor at
most. -/
structure Method.IsOf (maxCacheArity : Nat) (l : Location) (method : Declaration.Method)
    (m : Method) : Prop where
  name : m.name = method.name
  named : (checkIdentifier l m.name).value = some ()
  parameters : method.parameters.map (fun p => (checkParameter l method.name p).value) =
    m.parameters.map some
  interceptors : ∃ kinds, (Checked.all (method.interceptors.map (checkInterceptor l))).value =
    some kinds ∧ m.interceptors.Sublist kinds.eraseDups
  fits : m.Fits maxCacheArity

theorem isOf_of_checkMethod {method : Declaration.Method}
    (checked : (checkMethod maxCacheArity l method).value = some m) :
    m.IsOf maxCacheArity l method := by
  simp only [checkMethod, Checked.value_andThen, Checked.value_seq, Checked.value_map,
    Option.bind_eq_some_iff, Option.map_eq_some_iff] at checked
  obtain ⟨woven, ⟨_, ⟨_, ⟨_, ⟨_, ⟨_, ⟨_, named, rfl⟩, parameters, known, rfl⟩, _, -, rfl⟩, kinds,
    tagged, rfl⟩, _, -, rfl⟩, weaves⟩, caches⟩ := checked
  obtain ⟨rfl, body⟩ := body_of_checkWeaving weaves
  obtain ⟨name, same⟩ : m.name = method.name ∧ m.parameters = parameters := by
    obtain ⟨rfl, -⟩ | rfl := checkCaching_cases caches <;> exact ⟨rfl, rfl⟩
  exact {
    name
    named := name ▸ named
    parameters := by
      rw [same, ← Checked.value_all_eq_some.mp known, List.map_map]
      rfl
    interceptors := ⟨kinds, tagged, sublist_of_checkCaching caches⟩
    fits := fits_of_checkCaching body caches }

/-- The methods of a model are those of its declaration, in order, each with its own checks. -/
theorem methods_of_ofDeclaration (built : (ofDeclaration batch source d).value = some model) :
    (checkMethods batch source d).map (·.value) = model.methods.map some :=
  Checked.value_all_eq_some.mp (isOf_of_ofDeclaration built).methods

theorem exists_checkMethod (built : (ofDeclaration batch source d).value = some model)
    (member : m ∈ model.methods) :
    ∃ l method, (checkMethod batch.options.maxCacheArity l method).value = some m := by
  have listed : some m ∈ (checkMethods batch source d).map (·.value) := by
    rw [methods_of_ofDeclaration built]
    exact List.mem_map_of_mem member
  rw [checkMethods, List.map_map] at listed
  obtain ⟨method, -, checked⟩ := List.mem_map.mp listed
  exact ⟨_, method, checked⟩

theorem fits_of_ofDeclaration (built : (ofDeclaration batch source d).value = some model)
    (member : m ∈ model.methods) : m.Fits batch.options.maxCacheArity := by
  obtain ⟨_, _, checked⟩ := exists_checkMethod built member
  exact (isOf_of_checkMethod checked).fits

/-! ### Parameters -/

theorem isIdent_of_checkParameter {method : String} {p : Declaration.Parameter}
    {checked : Parameter} (known : (checkParameter l method p).value = some checked) :
    Code.isIdent checked.name = true := by
  have named := (isOf_of_checkParameter known).named
  unfold checkIdentifier at named
  split at named
  next valid => exact (Bool.and_eq_true_iff.mp valid).2
  next => cases named

theorem isIdent_of_checkMethod {method : Declaration.Method} {p : Parameter}
    (checked : (checkMethod maxCacheArity l method).value = some m) (member : p ∈ m.parameters) :
    Code.isIdent p.name = true := by
  have listed : some p ∈ m.parameters.map some := List.mem_map_of_mem member
  rw [← (isOf_of_checkMethod checked).parameters] at listed
  obtain ⟨_, -, known⟩ := List.mem_map.mp listed
  exact isIdent_of_checkParameter known

/-- A parameter that cannot be part of a key is reported. -/
theorem isHashable_of_checkKey {p : Parameter} (silent : (checkKey p).diagnostics = []) :
    p.type.ownedKey.1.isHashable = true := by
  unfold checkKey at silent
  split at silent
  next hashable => exact hashable
  next => cases silent

/-- Where nothing is reported, all parameters of a method whose results are kept can be part of a
key. -/
theorem isHashable_of_checkMethod {method : Declaration.Method} {p : Parameter}
    (checked : (checkMethod maxCacheArity l method).value = some m)
    (silent : (checkMethod maxCacheArity l method).diagnostics = []) (cached : m.isCached = true)
    (member : p ∈ m.parameters) : p.type.ownedKey.1.isHashable = true := by
  rw [checkMethod] at checked silent
  obtain ⟨woven, weaves, caches⟩ := Option.bind_eq_some_iff.mp checked
  rw [Checked.diagnostics_andThen, weaves] at silent
  have silent := (List.append_eq_nil_iff.mp silent).2
  simp only [Option.elim_some] at silent
  unfold checkCaching at caches silent
  split_ifs at caches silent with plain many hasResult
  · -- It would not be cached.
    cases caches
    rw [cached] at plain
    cases plain
  · cases caches
  · -- A method without a result is reported, before it loses its cache.
    rw [Checked.diagnostics_map] at silent
    cases silent
  · obtain ⟨_, -, rfl⟩ := Option.map_eq_some_iff.mp caches
    rw [Checked.diagnostics_map, Checked.diagnostics_all, List.flatMap_eq_nil_iff] at silent
    exact isHashable_of_checkKey (silent _ (List.mem_map_of_mem member))

/-! ### Weaving -/

variable {context : InterceptContext}

/-- Interceptors that are as generous as the model ask no more than it promises. -/
theorem Method.Fits.exists_weave (fits : m.Fits maxCacheArity) (woven : m.isWoven = true)
    (generous : maxCacheArity ≤ context.maxCacheArity) (contracts : ContractTable) :
    ∃ w, m.weave contracts context = .ok w := by
  refine Method.exists_weave contracts (fits.body woven) fun cached => ?_
  have few : ¬context.maxCacheArity < m.parameters.length :=
    Nat.not_lt.mpr (Nat.le_trans (fits.arity cached) generous)
  rw [Interceptor.refusal?, if_neg few, fits.result cached]
  rfl

end Companion.Model

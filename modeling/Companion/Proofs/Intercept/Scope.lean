import Companion.Proofs.Code.Identifiers
import Companion.Proofs.Model.Methods
import Mathlib.Logic.Function.Basic

/-! What interceptors do to the variables that a body sees.

All that they splice in around it are bindings and calls. Only a binding changes what a name stands
for, and a body means the same as in its declaration as long as no name of a parameter is bound again.
-/

set_option autoImplicit false

namespace Companion

/-- A statement beside a body. -/
inductive Splice where
  | binding (name : String) (type : Option TypeRef) (value : String)
  | call (callee arguments : String)

namespace Splice

def text : Splice → String
  | binding name none value => "let " ++ name ++ " = " ++ value ++ ";"
  | binding name (some type) value =>
    "let " ++ name ++ ": " ++ type.render ++ " = " ++ value ++ ";"
  | call callee arguments => callee ++ "(" ++ arguments ++ ");"

/-- The name that a statement gives a new meaning from there on. -/
def bound? : Splice → Option String
  | binding name _ _ => some name
  | call .. => none

section

variable {V : Type} (value : Splice → (String → V) → V)

/-- What names stand for after a statement. The value of a binding depends on what they stood for. -/
def after (env : String → V) (s : Splice) : String → V :=
  match s.bound? with
  | some name => Function.update env name (value s env)
  | none => env

def afterAll (env : String → V) (splices : List Splice) : String → V := splices.foldl (after value) env

/-- A statement is seen under the name that it binds, and under no other. -/
theorem after_of_not_bound {s : Splice} {x : String} (free : s.bound? ≠ some x) (env : String → V) :
    after value env s x = env x := by
  unfold after
  cases bound : s.bound? with
  | none => rfl
  | some name =>
    refine Function.update_of_ne ?_ _ _
    rintro rfl
    exact free bound

theorem afterAll_of_not_bound {splices : List Splice} {x : String}
    (free : x ∉ splices.filterMap bound?) (env : String → V) :
    afterAll value env splices x = env x := by
  induction splices generalizing env with
  | nil => rfl
  | cons s others ih =>
    simp only [List.mem_filterMap, List.exists_mem_cons_iff, not_or] at free ih
    rw [afterAll, List.foldl_cons]
    exact (ih free.2 _).trans (after_of_not_bound value free.1 env)

end

/-- Whatever is computed, the names stand for the same before and after the statements. -/
def Keeps (splices : List Splice) (names : List String) : Prop :=
  ∀ (V : Type) (value : Splice → (String → V) → V) (env : String → V), ∀ x ∈ names,
    afterAll value env splices x = env x

/-- A binding tells on itself by a value that was not there before. -/
theorem afterAll_marked (env : String → Bool) (splices : List Splice) (x : String) :
    afterAll (fun _ _ => true) env splices x = true ↔
      env x = true ∨ x ∈ splices.filterMap bound? := by
  induction splices generalizing env with
  | nil => simp [afterAll]
  | cons s others ih =>
    rw [afterAll, List.foldl_cons, ← afterAll, ih, after, List.filterMap_cons]
    cases bound : s.bound? with
    | none => rfl
    | some name =>
      by_cases same : x = name
      · simp [same]
      · simp [same]

theorem keeps_iff {splices : List Splice} {names : List String} :
    Keeps splices names ↔ ∀ x ∈ names, x ∉ splices.filterMap bound? := by
  constructor
  · intro keeps x member bound
    -- In a run where every binding is `true`, what was `false` before tells which names are bound.
    have marked := (afterAll_marked (fun _ => false) splices x).mpr (.inr bound)
    rw [keeps Bool _ _ x member] at marked
    cases marked
  · intro free V value env x member
    exact afterAll_of_not_bound value (free x member) env

end Splice

/-! ### What is spliced in -/

/-- The check of a contract. -/
def Contract.splice (c : Contract) : Splice :=
  .call "assert!" (c.condition ++ ", " ++ c.formatArguments)

namespace Interceptor

def eventCall (context : InterceptContext) (m : Model.Method) (message : String) : Splice :=
  .call (context.runtimePath ++ "::tracing::debug!") ("declaration = \"" ++ context.declaration ++
    "\", method = \"" ++ m.name ++ "\", \"" ++ message ++ "\"")

def before (context : InterceptContext) (m : Model.Method) : Interceptor → List Splice
  | cached => [.binding keyBinding none m.cacheKey.2,
      .binding hitBinding none ("self." ++ m.cacheField ++ ".borrow().get(&" ++ keyBinding ++
        ").cloned()")]
  | logged => [eventCall context m "enter"]

def behind (context : InterceptContext) (m : Model.Method) : Interceptor → List Splice
  | cached => [.call ("self." ++ m.cacheField ++ ".borrow_mut().entry(" ++ keyBinding ++
      ").or_insert_with") ("|| " ++ resultBinding ++ ".clone()")]
  | logged => [eventCall context m "exit"]

variable {context : InterceptContext} {m : Model.Method}

theorem event_eq_call (message : String) :
    event context m message = (eventCall context m message).text := by
  have opening : "::tracing::debug!(declaration = \"" =
      "::tracing::debug!(" ++ "declaration = \"" := by decide
  simp [event, eventCall, Splice.text, String.append_assoc]
  rw [opening, String.append_assoc]

theorem lookups_eq_before (kind : Interceptor) :
    kind.lookups context m = (kind.before context m).map Splice.text := by
  cases kind with
  | cached =>
    have field : " = self." = " = " ++ "self." := by decide
    simp [lookups, before, Splice.text, String.append_assoc]
    rw [field, String.append_assoc]
  | logged => simp [lookups, before, event_eq_call]

theorem store_eq_behind (kind : Interceptor) :
    kind.store context m = (kind.behind context m).map Splice.text := by
  cases kind with
  | cached =>
    have insertion : ").or_insert_with(|| " = ").or_insert_with(" ++ "|| " := by decide
    simp [store, behind, Splice.text, String.append_assoc]
    rw [insertion, String.append_assoc]
  | logged => simp [store, behind, event_eq_call]

end Interceptor

theorem Contract.assertion_eq_splice (c : Contract) : c.assertion = c.splice.text := by
  simp [assertion, splice, Splice.text, String.append_assoc]

namespace Model.Method

open Interceptor (keyBinding hitBinding)

/-- The checks of the parameters. -/
def assertions (m : Method) (contracts : ContractTable) : List Splice :=
  m.parameters.flatMap fun p => (contracts.get (.parameter m.name p.name)).map Contract.splice

/-- What interceptors do before the body. -/
def before (m : Method) (context : InterceptContext) : List Splice :=
  m.interceptors.flatMap (·.before context m)

/-- The body, inside all guards, is what the result is bound to. -/
def computation (m : Method) (body : String) : Splice :=
  .binding resultBinding (some m.returns)
    (m.interceptors.foldr (fun kind inner => kind.guarded inner) ("\x7b\n" ++ body ++ "\n\x7d"))

/-- What follows the body, with the checks of the result. -/
def behind (m : Method) (contracts : ContractTable) (context : InterceptContext) : List Splice :=
  m.interceptors.reverse.flatMap (·.behind context m) ++
    (contracts.get (.result m.name)).map Contract.splice

variable {m : Method} {contracts : ContractTable} {context : InterceptContext} {name : String}

theorem wovenStatements_eq_splices (body : String) : m.wovenStatements contracts context body =
    (m.assertions contracts ++ m.before context ++ m.computation body ::
      m.behind contracts context).map Splice.text ++ [resultBinding] := by
  have check : Contract.assertion = Splice.text ∘ Contract.splice :=
    funext Contract.assertion_eq_splice
  have result : m.resultStatement body = (m.computation body).text := by
    simp [resultStatement, computation, Splice.text, String.append_assoc]
  simp [wovenStatements, preconditions, postconditions, assertions, before, behind, check, result,
    Interceptor.lookups_eq_before, Interceptor.store_eq_behind, List.map_flatMap]

/-- Checks and events bind nothing. -/
theorem bound_assertions : (m.assertions contracts).filterMap Splice.bound? = [] := by
  refine List.filterMap_eq_nil_iff.mpr fun s member => ?_
  obtain ⟨p, -, inside⟩ := List.mem_flatMap.mp member
  obtain ⟨c, -, rfl⟩ := List.mem_map.mp inside
  rfl

theorem bound_behind : (m.behind contracts context).filterMap Splice.bound? = [] := by
  refine List.filterMap_eq_nil_iff.mpr fun s member => ?_
  obtain inside | inside := List.mem_append.mp member
  · obtain ⟨kind, -, inside⟩ := List.mem_flatMap.mp inside
    cases kind <;> cases List.mem_singleton.mp inside <;> rfl
  · obtain ⟨c, -, rfl⟩ := List.mem_map.mp inside
    rfl

/-- Only caches bind names before a body: that of the key, and that of what is found for it. -/
theorem mem_bound_before : name ∈ (m.before context).filterMap Splice.bound? ↔
    m.isCached = true ∧ (name = keyBinding ∨ name = hitBinding) := by
  have own (kind : Interceptor) : name ∈ (kind.before context m).filterMap Splice.bound? ↔
      kind = .cached ∧ (name = keyBinding ∨ name = hitBinding) := by
    cases kind with
    | cached => simp [Interceptor.before, Splice.bound?]
    | logged => simp [Interceptor.before, Interceptor.eventCall, Splice.bound?]
  rw [before, List.filterMap_flatMap, List.mem_flatMap]
  simp only [own]
  rw [isCached, List.contains_iff_mem]
  constructor
  · rintro ⟨kind, listed, rfl, names⟩
    exact ⟨listed, names⟩
  · rintro ⟨listed, names⟩
    exact ⟨.cached, listed, rfl, names⟩

/-- The identifiers of the parameters. -/
def identifiers (m : Method) : List String := m.parameters.filterMap (Code.identifier? ·.name)

variable {maxCacheArity : Nat} {l : Location} {method : Declaration.Method} {w : WovenMethod}

/-- What a woven method says beside its body: checks of its parameters, which come first and see
them as they are declared, then the bindings of caches, then the result, and calls that bind
nothing. The body sees its parameters as they are declared, whatever is computed before it, exactly
if its results are not kept or none of them has the name of a binding. -/
theorem before_keeps_iff (checked : (checkMethod maxCacheArity l method).value = some m)
    (woven : m.weave contracts context = .ok w) :
    (∀ p ∈ m.parameters, ∃ x ∈ m.identifiers, Code.identifier? p.name = some x) ∧
    ∃ body, m.body = some body ∧
      w.statements = (m.assertions contracts ++ m.before context ++ m.computation body ::
        m.behind contracts context).map Splice.text ++ [resultBinding] ∧
      (∀ n, Splice.Keeps ((m.assertions contracts).take n) m.identifiers) ∧
      (∀ x, x ∈ (m.assertions contracts ++ m.before context ++ [m.computation body]).filterMap
        Splice.bound? ↔
          x = "result" ∨ m.isCached = true ∧ (x = "cache_key" ∨ x = "cached_value")) ∧
      (m.behind contracts context).filterMap Splice.bound? = [] ∧
      (Splice.Keeps (m.assertions contracts ++ m.before context) m.identifiers ↔
        (m.isCached = true → ∀ p ∈ m.parameters, Code.identifier? p.name ≠ some "cache_key" ∧
          Code.identifier? p.name ≠ some "cached_value")) := by
  obtain ⟨-, body, given, rfl⟩ := weave_eq_ok.mp woven
  refine ⟨fun p member => ?_, body, given, wovenStatements_eq_splices body, fun n => ?_, fun x => ?_,
    bound_behind, ?_⟩
  · obtain ⟨x, known⟩ := Code.exists_ident? (isIdent_of_checkMethod checked member)
    have known := congrArg (Option.map fun name => (Text.afterPrefix? "r#" name).getD name) known
    exact ⟨_, List.mem_filterMap.mpr ⟨p, member, known⟩, known⟩
  · rw [Splice.keeps_iff]
    intro x _ bound
    have inside := ((List.take_sublist n (m.assertions contracts)).filterMap Splice.bound?).mem bound
    rw [bound_assertions] at inside
    cases inside
  · rw [List.filterMap_append, List.filterMap_append, bound_assertions, List.nil_append,
      List.mem_append, mem_bound_before, or_comm]
    exact or_congr_left List.mem_singleton
  · rw [Splice.keeps_iff, List.filterMap_append, bound_assertions, List.nil_append]
    constructor
    · intro free cached p member
      constructor <;> intro named
      · exact free _ (List.mem_filterMap.mpr ⟨p, member, named⟩)
          (mem_bound_before.mpr ⟨cached, .inl rfl⟩)
      · exact free _ (List.mem_filterMap.mpr ⟨p, member, named⟩)
          (mem_bound_before.mpr ⟨cached, .inr rfl⟩)
    · intro apart x listed bound
      obtain ⟨p, member, named⟩ := List.mem_filterMap.mp listed
      obtain ⟨cached, names⟩ := mem_bound_before.mp bound
      obtain ⟨key, hit⟩ := apart cached p member
      rcases names with rfl | rfl
      · exact key named
      · exact hit named

/-- A parameter with a name of its own, and one that has the name of the key. Both methods are
accepted. -/
theorem before_keeps_iff_area :
    let area (parameter : String) : Checked Method := checkMethod 8 default
      ⟨"area", [⟨parameter, "u64", []⟩], some "u64", [], ["cached"], some "0"⟩
    let context : InterceptContext := ⟨"Shape", "::runtime", 8⟩
    let prelude (m : Method) : List Splice := m.assertions ⟨[]⟩ ++ m.before context
    (∃ m w, (area "scale").value = some m ∧ m.weave ⟨[]⟩ context = .ok w ∧
      Splice.Keeps (prelude m) m.identifiers) ∧
      ∃ m w, (area "cache_key").value = some m ∧ m.weave ⟨[]⟩ context = .ok w ∧
        ¬Splice.Keeps (prelude m) m.identifiers := by
  intro area context prelude
  have accepted (parameter : String) (free : Bool)
      (known : ((area parameter).value.map fun m => (m.isWoven, decide (m.isCached = true →
        ∀ p ∈ m.parameters, Code.identifier? p.name ≠ some "cache_key" ∧
          Code.identifier? p.name ≠ some "cached_value"))) = some (true, free)) :
      ∃ m w, (area parameter).value = some m ∧ m.weave ⟨[]⟩ context = .ok w ∧
        (Splice.Keeps (prelude m) m.identifiers ↔ free = true) := by
    obtain ⟨m, built, same⟩ := Option.map_eq_some_iff.mp known
    obtain ⟨woven, same⟩ := Prod.mk.inj same
    have generous : 8 ≤ context.maxCacheArity := Nat.le_refl 8
    obtain ⟨w, weaves⟩ := (isOf_of_checkMethod built).fits.exists_weave woven generous ⟨[]⟩
    obtain ⟨-, body, -, -, -, -, -, keeps⟩ := before_keeps_iff built weaves
    exact ⟨m, w, built, weaves, by rw [keeps, ← same, decide_eq_true_iff]⟩
  obtain ⟨m, w, built, weaves, keeps⟩ := accepted "scale" true (by decide +kernel)
  obtain ⟨m', w', built', weaves', captured⟩ := accepted "cache_key" false (by decide +kernel)
  exact ⟨⟨m, w, built, weaves, keeps.mpr rfl⟩, m', w', built', weaves',
    fun kept => Bool.false_ne_true (captured.mp kept)⟩

end Model.Method

end Companion

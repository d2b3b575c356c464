import Companion.Intercept.Weave
import Companion.Proofs.Results
import Companion.Proofs.Text.Basic
import Mathlib.Tactic.SplitIfs

/-! What weaving makes of a method: its statements in order, or the error of the first interceptor
that cannot be used on it. -/

set_option autoImplicit false

namespace Companion

theorem Phase.mayFollow_iff {next current : Phase} :
    next.mayFollow current = true ↔ current.rank ≤ next.rank ∧ next ≠ .start ∧ next ≠ .finish ∧
      (next = .body → current ≠ .body) := by
  simp only [mayFollow, Bool.and_eq_true, decide_eq_true_eq, Bool.not_eq_true', Bool.and_eq_false_iff,
    beq_eq_false_iff_ne, and_assoc, imp_iff_not_or]

/-- A phase that may repeat itself may come after any phase that is not later. -/
theorem Phase.mayFollow_of_rank_le {next current : Phase} (repeats : next.mayFollow next = true)
    (inOrder : current.rank ≤ next.rank) : next.mayFollow current = true := by
  obtain ⟨-, noStart, noFinish, once⟩ := mayFollow_iff.mp repeats
  exact mayFollow_iff.mpr ⟨inOrder, noStart, noFinish, fun body => absurd body (once body)⟩

namespace Body

theorem push_eq (b : Body) {phase : Phase} (allowed : phase.mayFollow b.phase = true)
    (statement : String) :
    b.push phase statement = .ok ⟨b.method, phase, b.statements ++ [statement]⟩ := by
  rw [push, if_pos allowed]

/-- Statements of a phase that is not past are all added. -/
theorem pushAll_spec (b : Body) (phase : Phase) (repeats : phase.mayFollow phase = true)
    (inOrder : b.phase.rank ≤ phase.rank) (statements : List String) :
    ∃ reached, b.pushAll phase statements =
        .ok ⟨b.method, reached, b.statements ++ statements⟩ ∧
      b.phase.rank ≤ reached.rank ∧ reached.rank ≤ phase.rank := by
  induction statements generalizing b with
  | nil => exact ⟨b.phase, by rw [List.append_nil]; rfl, Nat.le_refl _, inOrder⟩
  | cons s others ih =>
    have first := b.push_eq (Phase.mayFollow_of_rank_le repeats inOrder) s
    obtain ⟨reached, rest, later, within⟩ :=
      ih ⟨b.method, phase, b.statements ++ [s]⟩ (Nat.le_refl _)
    refine ⟨reached, ?_, Nat.le_trans inOrder later, within⟩
    rw [pushAll, first, ← List.append_cons] at *
    exact rest

end Body

namespace Interceptor

/-- Why an interceptor cannot be used on a method. -/
def refusal? (context : InterceptContext) (m : Model.Method) : Interceptor → Option InterceptError
  | cached =>
    if context.maxCacheArity < m.parameters.length then
      some (.tooManyParameters m.name context.maxCacheArity)
    else if m.returns.isUnit then some (.unitResult m.name)
    else none
  | logged => none

/-- The state of a method that an interceptor adds. -/
def state (m : Model.Method) : Interceptor → List StateField
  | cached => [⟨m.cacheField, "::std::cell::RefCell<::std::collections::HashMap<" ++
      m.cacheKey.1.render ++ ", " ++ m.returns.render ++ ">>"⟩]
  | logged => []

/-- What an interceptor that can be used does before the body. -/
def lookups (context : InterceptContext) (m : Model.Method) : Interceptor → List String
  | cached => ["let " ++ keyBinding ++ " = " ++ m.cacheKey.2 ++ ";",
      "let " ++ hitBinding ++ " = self." ++ m.cacheField ++ ".borrow().get(&" ++ keyBinding ++
        ").cloned();"]
  | logged => [event context m "enter"]

variable {context : InterceptContext} {m : Model.Method} {kinds : List Interceptor}

theorem checkCache_eq :
    checkCache context m = (cached.refusal? context m).elim (.ok ()) .error := by
  rw [checkCache, refusal?]
  split_ifs <;> rfl

theorem stateFields_eq (kind : Interceptor) :
    kind.stateFields context m = (kind.refusal? context m).elim (.ok (kind.state m)) .error := by
  cases kind with
  | cached =>
    rw [stateFields, checkCache_eq]
    cases cached.refusal? context m <;> rfl
  | logged => rfl

theorem lookup_eq (kind : Interceptor) :
    kind.lookup context m = (kind.refusal? context m).elim (.ok (kind.lookups context m)) .error := by
  cases kind with
  | cached =>
    rw [lookup, checkCache_eq]
    cases cached.refusal? context m <;> rfl
  | logged => rfl

/-- The first interceptor that cannot be used ends the preparation. -/
theorem prepare_eq_error (b : Body) (inOrder : b.phase.rank ≤ Phase.lookup.rank)
    {e : InterceptError} (refused : kinds.findSome? (·.refusal? context m) = some e) :
    prepare context m b kinds = .error e := by
  induction kinds generalizing b with
  | nil => cases refused
  | cons kind others ih =>
    rw [List.findSome?_cons] at refused
    rw [prepare, stateFields_eq, lookup_eq]
    cases own : kind.refusal? context m with
    | some first =>
      rw [own] at refused
      cases refused
      rfl
    | none =>
      rw [own] at refused
      obtain ⟨reached, pushed, -, within⟩ :=
        b.pushAll_spec .lookup rfl inOrder (kind.lookups context m)
      simp only [Option.elim, bind, Except.bind, pushed]
      rw [ih _ within refused]

/-- Interceptors that can be used add their state and lookups in order. -/
theorem prepare_eq_ok (b : Body) (inOrder : b.phase.rank ≤ Phase.lookup.rank)
    (usable : kinds.findSome? (·.refusal? context m) = none) :
    ∃ reached, prepare context m b kinds = .ok (kinds.flatMap (·.state m),
        ⟨b.method, reached, b.statements ++ kinds.flatMap (·.lookups context m)⟩) ∧
      reached.rank ≤ Phase.lookup.rank := by
  induction kinds generalizing b with
  | nil => exact ⟨b.phase, by simp only [List.flatMap_nil, List.append_nil]; rfl, inOrder⟩
  | cons kind others ih =>
    obtain ⟨own, rest⟩ := List.forall_mem_cons.mp (List.findSome?_eq_none_iff.mp usable)
    obtain ⟨reached, pushed, -, within⟩ :=
      b.pushAll_spec .lookup rfl inOrder (kind.lookups context m)
    obtain ⟨last, prepared, within⟩ := ih ⟨b.method, reached, b.statements ++ kind.lookups context m⟩
      within (List.findSome?_eq_none_iff.mpr rest)
    refine ⟨last, ?_, within⟩
    rw [prepare, stateFields_eq, lookup_eq, own]
    simp only [Option.elim, bind, Except.bind, pushed, prepared, List.flatMap_cons,
      List.append_assoc]
    rfl

end Interceptor

namespace Model.Method

variable {context : InterceptContext} {m : Method}

/-- The statements of a method with its body and all that is spliced in. -/
def wovenStatements (m : Method) (contracts : ContractTable) (context : InterceptContext)
    (body : String) : List String :=
  m.preconditions contracts ++ m.interceptors.flatMap (·.lookups context m) ++
    [m.resultStatement body] ++ m.interceptors.reverse.flatMap (·.store context m) ++
    m.postconditions contracts ++ [resultBinding]

/-- A method is woven unless an interceptor cannot be used on it, or it has no body. -/
theorem weave_eq (m : Method) (contracts : ContractTable) (context : InterceptContext) :
    m.weave contracts context =
      match m.interceptors.findSome? (·.refusal? context m), m.body with
      | some e, _ => .error e
      | none, none => .error (.missingBody m.name)
      | none, some body => .ok ⟨m.signature, m.wovenStatements contracts context body,
          m.interceptors.flatMap (·.state m)⟩ := by
  obtain ⟨asserted, pre, -, early⟩ := Body.pushAll_spec ⟨m.name, .start, []⟩ .preconditions rfl
    (Nat.zero_le _) (m.preconditions contracts)
  have early := Nat.le_trans early (by decide : Phase.preconditions.rank ≤ Phase.lookup.rank)
  cases refused : m.interceptors.findSome? (·.refusal? context m) with
  | some e =>
    have stopped := Interceptor.prepare_eq_error
      ⟨m.name, asserted, m.preconditions contracts⟩ early refused
    simp only [weave, Body.empty, pre, stopped, bind, Except.bind, List.nil_append]
  | none =>
    obtain ⟨asked, prepared, early⟩ := Interceptor.prepare_eq_ok
      ⟨m.name, asserted, m.preconditions contracts⟩ early refused
    cases given : m.body with
    | none =>
      simp only [weave, Body.empty, pre, prepared, given, bind, Except.bind, List.nil_append]
      rfl
    | some body =>
      -- The body alone does not repeat itself, so it needs a phase before its own.
      have bodyFollows : Phase.body.mayFollow asked = true := by
        cases asked <;> first | rfl | simp [Phase.rank] at early
      have computed := Body.push_eq ⟨m.name, asked,
        m.preconditions contracts ++ m.interceptors.flatMap (·.lookups context m)⟩ bodyFollows
        (m.resultStatement body)
      obtain ⟨stored, stores, late, early⟩ := Body.pushAll_spec
        ⟨m.name, .body, m.preconditions contracts ++
          m.interceptors.flatMap (·.lookups context m) ++ [m.resultStatement body]⟩ .store rfl
        (by decide : Phase.body.rank ≤ Phase.store.rank)
        (m.interceptors.reverse.flatMap (·.store context m))
      obtain ⟨reached, post, later, -⟩ := Body.pushAll_spec
        ⟨m.name, stored, m.preconditions contracts ++
          m.interceptors.flatMap (·.lookups context m) ++ [m.resultStatement body] ++
          m.interceptors.reverse.flatMap (·.store context m)⟩ .postconditions rfl
        (Nat.le_trans early (by decide)) (m.postconditions contracts)
      have closes : ¬reached.rank < Phase.body.rank := Nat.not_lt.mpr (Nat.le_trans late later)
      simp only [weave, Body.empty, pre, prepared, given, computed, stores, post, bind,
        Except.bind, Body.close, if_neg closes, List.nil_append]
      rfl

theorem weave_eq_ok {contracts : ContractTable} {w : WovenMethod} :
    m.weave contracts context = .ok w ↔
      (∀ kind ∈ m.interceptors, kind.refusal? context m = none) ∧ ∃ body, m.body = some body ∧
        w = ⟨m.signature, m.wovenStatements contracts context body,
          m.interceptors.flatMap (·.state m)⟩ := by
  rw [weave_eq, ← List.findSome?_eq_none_iff]
  cases m.interceptors.findSome? (·.refusal? context m) with
  | some e => simp
  | none => cases m.body <;> simp [eq_comm]

/-- However a method is woven, its signature stays. -/
theorem signature_of_weave {contracts : ContractTable} {w : WovenMethod}
    (woven : m.weave contracts context = .ok w) : w.signature = m.signature := by
  obtain ⟨-, body, -, rfl⟩ := weave_eq_ok.mp woven
  rfl

/-- However a method is woven, its interceptors add their state in order. -/
theorem stateFields_of_weave {contracts : ContractTable} {w : WovenMethod}
    (woven : m.weave contracts context = .ok w) :
    w.stateFields = m.interceptors.flatMap (·.state m) := by
  obtain ⟨-, body, -, rfl⟩ := weave_eq_ok.mp woven
  rfl

/-- A method with a body is woven, if its results can be cached where they are to be. -/
theorem exists_weave (contracts : ContractTable) (given : m.body ≠ none)
    (caches : m.isCached = true → Interceptor.cached.refusal? context m = none) :
    ∃ w, m.weave contracts context = .ok w := by
  obtain ⟨body, given⟩ := Option.ne_none_iff_exists'.mp given
  refine ⟨_, weave_eq_ok.mpr ⟨fun kind member => ?_, body, given, rfl⟩⟩
  cases kind with
  | cached => exact caches (List.contains_iff_mem.mpr member)
  | logged => rfl

end Model.Method

end Companion

/-! ### How interceptors stand around a body: each encloses those after it, whatever their number and order, and repeats enclose themselves -/

namespace Companion

namespace Interceptor

/-- What stands in front of an expression that the interceptor guards. -/
def opening : Interceptor → String
  | cached => "match cached_value \x7b\n    Some(value) => value,\n    None => "
  | logged => ""

/-- What stands behind it. -/
def closing : Interceptor → String
  | cached => ",\n\x7d"
  | logged => ""

theorem guarded_eq (kind : Interceptor) (inner : String) :
    kind.guarded inner = kind.opening ++ inner ++ kind.closing := by
  cases kind with
  | cached => rfl
  | logged =>
    rw [guarded, opening, closing, String.empty_append, String.append_empty]

/-- The guard of the first opens first and closes last. -/
theorem foldr_guarded (kinds : List Interceptor) (inner : String) :
    kinds.foldr (fun kind inner => kind.guarded inner) inner =
      String.join (kinds.map opening) ++ inner ++ String.join (kinds.reverse.map closing) := by
  induction kinds with
  | nil => simp
  | cons kind others ih =>
    rw [List.foldr_cons, ih, guarded_eq, List.map_cons, String.join_cons, List.reverse_cons,
      List.map_append, String.join_append]
    simp [String.append_assoc]

end Interceptor

theorem Model.Method.resultStatement_eq (m : Method) (body : String) :
    m.resultStatement body = "let result: " ++ m.returns.render ++ " = " ++
      String.join (m.interceptors.map Interceptor.opening) ++ "\x7b\n" ++ body ++ "\n\x7d" ++
      String.join (m.interceptors.reverse.map Interceptor.closing) ++ ";" := by
  have named : "let " ++ resultBinding ++ ": " = "let result: " := by decide
  rw [resultStatement, Interceptor.foldr_guarded, named]
  simp only [String.append_assoc]

/-- The statements of a method are, in this order: the assertions on its parameters, the lookups of
its interceptors from the outermost in, the result of the body inside all guards, the stores from
the innermost out, the assertions on the result, and the result. An interceptor that cannot be used
is reported, the first of them alone, and a missing body only if there is none. -/
theorem Model.Method.weave_nests (m : Method) (contracts : ContractTable)
    (context : InterceptContext) :
    m.weave contracts context =
      match m.interceptors.findSome? (·.refusal? context m), m.body with
      | some e, _ => .error e
      | none, none => .error (.missingBody m.name)
      | none, some body => .ok ⟨m.signature,
          (m.parameters.flatMap fun p =>
            (contracts.get (.parameter m.name p.name)).map Contract.assertion) ++
          m.interceptors.flatMap (·.lookups context m) ++
          ["let result: " ++ m.returns.render ++ " = " ++
            String.join (m.interceptors.map Interceptor.opening) ++
            "\x7b\n" ++ body ++ "\n\x7d" ++
            String.join (m.interceptors.reverse.map Interceptor.closing) ++ ";"] ++
          m.interceptors.reverse.flatMap (·.store context m) ++
          (contracts.get (.result m.name)).map Contract.assertion ++ ["result"],
        m.interceptors.flatMap (·.state m)⟩ := by
  rw [weave_eq]
  cases m.interceptors.findSome? (·.refusal? context m) with
  | some e => rfl
  | none =>
    cases m.body with
    | none => rfl
    | some body =>
      simp only [wovenStatements, resultStatement_eq]
      rfl

end Companion

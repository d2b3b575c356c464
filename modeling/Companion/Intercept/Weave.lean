import Companion.Contract.Table
import Companion.Intercept.Body

/-! Methods with their checks and interceptors spliced in.

The first interceptor is the outermost: lookups run first to last, guards and stores last to
first.
-/

set_option autoImplicit false

namespace Companion

/-- What interceptors know besides the method. -/
structure InterceptContext where
  declaration : String
  runtimePath : String
  maxCacheArity : Nat
  deriving DecidableEq, Repr

/-- A field that an interceptor adds to the generated type. -/
structure StateField where
  name : String
  type : String
  deriving DecidableEq, Repr

structure WovenMethod where
  signature : String
  statements : List String
  stateFields : List StateField
  deriving DecidableEq, Repr

/-- The type of a method's cache keys and the expression for one. -/
def Model.Method.cacheKey (m : Model.Method) : TypeRef × String :=
  match m.parameters.map fun p => (p.type.ownedKey.1, p.type.ownedKey.2.apply p.name) with
  | [] => (.unit, "()")
  | [key] => key
  | first :: others =>
    (.tuple first.1 (others.map Prod.fst),
      "(" ++ ", ".intercalate (first.2 :: others.map Prod.snd) ++ ")")

namespace Interceptor

def keyBinding : String := "cache_key"

def hitBinding : String := "cached_value"

/-- Whether results of the method can be cached. -/
def checkCache (context : InterceptContext) (m : Model.Method) : Except InterceptError Unit :=
  if context.maxCacheArity < m.parameters.length then
    .error (.tooManyParameters m.name context.maxCacheArity)
  else if m.returns.isUnit then .error (.unitResult m.name)
  else .ok ()

def event (context : InterceptContext) (m : Model.Method) (message : String) : String :=
  context.runtimePath ++ "::tracing::debug!(declaration = \"" ++ context.declaration ++
    "\", method = \"" ++ m.name ++ "\", \"" ++ message ++ "\");"

def stateFields (context : InterceptContext) (m : Model.Method) :
    Interceptor → Except InterceptError (List StateField)
  | cached => do
    checkCache context m
    return [⟨m.cacheField, "::std::cell::RefCell<::std::collections::HashMap<" ++
      m.cacheKey.1.render ++ ", " ++ m.returns.render ++ ">>"⟩]
  | logged => .ok []

/-- Statements before the body. -/
def lookup (context : InterceptContext) (m : Model.Method) :
    Interceptor → Except InterceptError (List String)
  | cached => do
    checkCache context m
    return ["let " ++ keyBinding ++ " = " ++ m.cacheKey.2 ++ ";",
      "let " ++ hitBinding ++ " = self." ++ m.cacheField ++ ".borrow().get(&" ++ keyBinding ++
        ").cloned();"]
  | logged => .ok [event context m "enter"]

/-- The expression of the body with what stands around it. -/
def guarded (inner : String) : Interceptor → String
  | cached => "match " ++ hitBinding ++ " \x7b\n    Some(value) => value,\n    None => " ++ inner ++
    ",\n\x7d"
  | logged => inner

/-- Statements after the body. -/
def store (context : InterceptContext) (m : Model.Method) : Interceptor → List String
  | cached => ["self." ++ m.cacheField ++ ".borrow_mut().entry(" ++ keyBinding ++
    ").or_insert_with(|| " ++ resultBinding ++ ".clone());"]
  | logged => [event context m "exit"]

/-- The state and lookups of interceptors, in order. -/
def prepare (context : InterceptContext) (m : Model.Method) (b : Body) :
    List Interceptor → Except InterceptError (List StateField × Body)
  | [] => .ok ([], b)
  | kind :: others => do
    let fields ← kind.stateFields context m
    let b ← b.pushAll .lookup (← kind.lookup context m)
    let (more, b) ← prepare context m b others
    return (fields ++ more, b)

end Interceptor

namespace Model.Method

def signature (m : Method) : String :=
  "fn " ++ m.name ++ "(&self" ++ (if m.parameters.isEmpty then "" else ", " ++ m.parameterList) ++
    ")" ++ (if m.returns.isUnit then "" else " -> " ++ m.returns.render)

/-- The assertions on the parameters. -/
def preconditions (m : Method) (contracts : ContractTable) : List String :=
  m.parameters.flatMap fun p =>
    (contracts.get (.parameter m.name p.name)).map Contract.assertion

/-- The assertions on the result. -/
def postconditions (m : Method) (contracts : ContractTable) : List String :=
  (contracts.get (.result m.name)).map Contract.assertion

/-- The binding of the result to the body inside all guards. -/
def resultStatement (m : Method) (body : String) : String :=
  let inner := "\x7b\n" ++ body ++ "\n\x7d"
  let expression := m.interceptors.foldr (fun kind inner => kind.guarded inner) inner
  "let " ++ resultBinding ++ ": " ++ m.returns.render ++ " = " ++ expression ++ ";"

def weave (m : Method) (contracts : ContractTable) (context : InterceptContext) :
    Except InterceptError WovenMethod := do
  let b ← (Body.empty m.name).pushAll .preconditions (m.preconditions contracts)
  let (stateFields, b) ← Interceptor.prepare context m b m.interceptors
  let some body := m.body | throw (.missingBody m.name)
  let b ← b.push .body (m.resultStatement body)
  let b ← b.pushAll .store (m.interceptors.reverse.flatMap fun kind => kind.store context m)
  let b ← b.pushAll .postconditions (m.postconditions contracts)
  return ⟨m.signature, ← b.close resultBinding, stateFields⟩

end Model.Method

end Companion

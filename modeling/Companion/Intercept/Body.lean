import Companion.Text.Basic

/-! Method bodies that are put together phase by phase. -/

set_option autoImplicit false

/-! ### The kinds of interceptors and their tags -/

namespace Companion

inductive Interceptor where
  /-- Results are kept per instance. -/
  | cached
  /-- Calls are logged on entry and exit. -/
  | logged
  deriving DecidableEq, Repr

namespace Interceptor

def tag : Interceptor → String
  | cached => "cached"
  | logged => "logged"

def ofTag? (written : String) : Option Interceptor :=
  match Text.trim written with
  | "cached" => some cached
  | "cache" => some cached
  | "logged" => some logged
  | "log" => some logged
  | _ => none

end Interceptor

/-! ### Bodies in phases -/

inductive Phase where
  | start
  | preconditions
  | lookup
  | body
  | store
  | postconditions
  | finish
  deriving DecidableEq, Repr

namespace Phase

def name : Phase → String
  | start => "start"
  | preconditions => "preconditions"
  | lookup => "cache lookup"
  | body => "original body"
  | store => "cache store"
  | postconditions => "postconditions"
  | finish => "end"

/-- Place in the order of execution. -/
def rank : Phase → Nat
  | start => 0
  | preconditions => 1
  | lookup => 2
  | body => 3
  | store => 4
  | postconditions => 5
  | finish => 6

/-- Whether a statement of the phase may come after what has been added so far. The body itself
comes once, and nothing is added to either end. -/
def mayFollow (next current : Phase) : Bool :=
  current.rank ≤ next.rank && next ≠ start && next ≠ finish &&
    !(next == body && current == body)

end Phase

inductive InterceptError where
  | unknown (tag : String)
  | phaseOrder (current requested : Phase)
  | missingBody (method : String)
  | tooManyParameters (method : String) (limit : Nat)
  | unitResult (method : String)
  deriving DecidableEq, Repr

def InterceptError.message : InterceptError → String
  | unknown tag => "Unknown interceptor `" ++ tag ++ "`"
  | phaseOrder current requested =>
    "cannot add " ++ requested.name ++ " statements after " ++ current.name
  | missingBody method => "the original body of " ++ method ++ " was never added"
  | tooManyParameters method limit =>
    "Cannot cache more than " ++ toString limit ++ " parameters (method: " ++ method ++ ")."
  | unitResult method =>
    "The method " ++ method ++ " returns nothing; its result cannot be cached."

/-- The interceptor of a tag. -/
def Interceptor.named (written : String) : Except InterceptError Interceptor :=
  match ofTag? written with
  | some kind => .ok kind
  | none => .error (.unknown (Text.trim written))

/-- The statements added so far, and the phase of the last. -/
structure Body where
  method : String
  phase : Phase
  statements : List String
  deriving DecidableEq, Repr

namespace Body

def empty (method : String) : Body := ⟨method, .start, []⟩

def push (b : Body) (phase : Phase) (statement : String) : Except InterceptError Body :=
  if phase.mayFollow b.phase then
    .ok { b with phase, statements := b.statements ++ [statement] }
  else .error (.phaseOrder b.phase phase)

/-- Add statements of one phase. -/
def pushAll (b : Body) (phase : Phase) : List String → Except InterceptError Body
  | [] => .ok b
  | s :: others => do (← b.push phase s).pushAll phase others

/-- The statements with the tail expression behind them. -/
def close (b : Body) (tail : String) : Except InterceptError (List String) :=
  if b.phase.rank < Phase.body.rank then .error (.missingBody b.method)
  else .ok (b.statements ++ [tail])

end Body

end Companion

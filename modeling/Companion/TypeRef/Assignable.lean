import Companion.TypeRef.Queries

/-! Whether a value of one type can stand where another is expected.

Generic arguments do not count. What is known of a declared type are its supertypes; library
types are looked up in tables.
-/

set_option autoImplicit false

namespace Companion

inductive Assignability where
  | assignable
  | notAssignable
  /-- Nothing is known about the type. -/
  | unknown
  deriving DecidableEq, Repr

/-- Declared types with the supertypes they name, in order. -/
structure Hierarchy where
  declared : List (String × List String)
  deriving Repr, Inhabited

namespace Hierarchy

def supertypes? (h : Hierarchy) (name : String) : Option (List String) := h.declared.lookup name

/-- Names of the direct supertypes without their paths; none of an undeclared type. -/
def parents (h : Hierarchy) (name : String) : List String :=
  ((h.supertypes? name).getD []).map Text.lastSegment

/-- Every name that occurs as a supertype. -/
def names (h : Hierarchy) : List String :=
  h.declared.flatMap fun (_, supertypes) => supertypes.map Text.lastSegment

/-- Add supertypes to the names seen and the names to visit, unless they have been seen. -/
def enqueue (visited pending : List String) : List String → List String × List String
  | [] => (visited, pending)
  | name :: more =>
    if visited.contains name then enqueue visited pending more
    else enqueue (name :: visited) (name :: pending) more

/-- Search upwards from the pending names. -/
def reachesWithin (h : Hierarchy) (target : String) :
    Nat → List String → List String → Bool
  | _, _, [] => false
  | 0, _, _ :: _ => false
  | fuel + 1, visited, name :: pending =>
    let parents := h.parents name
    if parents.contains target then true
    else
      let (visited, pending) := enqueue visited pending parents
      h.reachesWithin target fuel visited pending

/-- Whether some number of steps to a supertype, at least one, leads to the target. Each name
is visited once. -/
def reaches (h : Hierarchy) (start target : String) : Bool :=
  h.reachesWithin target (h.names.length + 1) [start] [start]

end Hierarchy

namespace TypeRef

/-- Traits whose absence from a library type is certain if its table lacks them. -/
def knownTraits : List String :=
  ["Copy", "Clone", "Debug", "Display", "Default", "Hash", "Eq", "PartialEq", "Ord", "PartialOrd",
    "Send", "Sync", "FromStr", "ToString", "AsRef", "Borrow", "Deref", "IntoIterator", "Iterator",
    "Extend", "FromIterator", "Error", "Read", "Write"]

def scalarTraits : List String :=
  ["Copy", "Clone", "Debug", "Display", "Default", "Hash", "Eq", "PartialEq", "Ord", "PartialOrd",
    "Send", "Sync", "FromStr", "ToString"]

def floatTraits : List String :=
  ["Copy", "Clone", "Debug", "Display", "Default", "PartialEq", "PartialOrd", "Send", "Sync",
    "FromStr"]

def stringTraits : List String :=
  ["Clone", "Debug", "Display", "Default", "Hash", "Eq", "PartialEq", "Ord", "PartialOrd", "Send",
    "Sync", "FromStr", "ToString", "AsRef", "Borrow", "Deref"]

def collectionTraits : List String :=
  ["Clone", "Debug", "Default", "PartialEq", "Eq", "Send", "Sync", "IntoIterator", "Extend",
    "FromIterator", "Hash"]

/-- Traits that every generated type has. -/
def generatedTraits : List String := ["Debug", "Clone", "PartialEq"]

def libraryTraits? (t : TypeRef) : Option (List String) :=
  if t.isInteger || t.dereferenced.isNamed ["bool", "char"] then some scalarTraits
  else if t.isFloat then some floatTraits
  else if t.isText then some stringTraits
  else if t.isCollection then some collectionTraits
  else none

/-- Whether a value of the declared type, or what it refers to, can stand for the target. -/
def assignability (declared target : TypeRef) (hierarchy : Hierarchy) : Assignability :=
  let declared := declared.dereferenced
  let goal := target.simpleName
  if declared.shape = target.shape ∧ declared.simpleName = goal then .assignable
  else
    match declared.libraryTraits? with
    | some traits =>
      if traits.contains goal then .assignable
      else if knownTraits.contains goal || target.libraryTraits?.isSome then .notAssignable
      else .unknown
    | none =>
      let start := declared.simpleName
      if (hierarchy.supertypes? start).isNone then .unknown
      else if generatedTraits.contains goal || hierarchy.reaches start goal then .assignable
      else .notAssignable

end TypeRef

end Companion

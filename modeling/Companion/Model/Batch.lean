import Companion.Model.Basic
import Companion.TypeRef.Assignable

/-! What a declaration can know of the others that are processed with it. -/

set_option autoImplicit false

namespace Companion

structure ModelOptions where
  maxCacheArity : Nat
  /-- What generated types are named by after the declaration's name. -/
  subclassSuffix : String
  deriving DecidableEq, Repr, Inhabited

/-- What other declarations see of one. -/
structure Batch.Entry where
  supertypes : List String
  artifacts : List ArtifactKind
  memberTypes : List String
  deriving DecidableEq, Repr, Inhabited

structure Batch where
  entries : List (String × Batch.Entry)
  options : ModelOptions
  deriving Inhabited

namespace Batch

def Entry.ofDeclaration (d : Declaration) : Entry :=
  ⟨d.supertypes, d.artifacts, d.members.map (·.type)⟩

/-- The first declaration of a name counts. -/
def ofDeclarations (options : ModelOptions) (ds : List Declaration) : Batch :=
  ⟨ds.map fun d => (d.name, Entry.ofDeclaration d), options⟩

def find? (b : Batch) (name : String) : Option Entry := b.entries.lookup name

def contains (b : Batch) (name : String) : Bool := (b.find? name).isSome

/-- The declaration whose generated type has the name. -/
def declarationOf? (b : Batch) (t : TypeRef) : Option String :=
  match t with
  | .path _ [] => do
    let name ← Text.beforeSuffix? b.options.subclassSuffix t.simpleName
    if !name.isEmpty && b.contains name then some name else none
  | _ => none

def isDeclaredType (b : Batch) (t : TypeRef) : Bool := (b.declarationOf? t).isSome

/-- The part of a type that may be that of a declaration, and how it is held. -/
def heldType (t : TypeRef) : TypeRef × NestedShape :=
  match t.optionContent? with
  | some content => (content, .optional)
  | none =>
    match t with
    | .path _ [element] => if t.isNamed ["Vec"] then (element, .list) else (t, .plain)
    | _ => (t, .plain)

/-- The declaration that a field of the type holds. -/
def nested? (b : Batch) (t : TypeRef) : Option Nested :=
  let (held, shape) := heldType t
  (b.declarationOf? held).map (⟨·, shape⟩)

def hasConverter (b : Batch) (name : String) : Bool :=
  (b.find? name).any (·.artifacts.contains .converter)

/-- The declarations whose converters the converter of this one calls. -/
def converterDependencies (b : Batch) (name : String) : List String :=
  match b.find? name with
  | none => []
  | some entry =>
    (entry.memberTypes.filterMap fun text =>
      match TypeRef.parse text with
      | .ok t => (b.nested? t).map (·.declaration)
      | .error _ => none).eraseDups

/-- The supertypes of the batch's declarations. -/
def hierarchy (b : Batch) : Hierarchy := ⟨b.entries.map fun (name, e) => (name, e.supertypes)⟩

end Batch

/-! ### Which converters call which, and cycles among them -/

/-- Edges by the node they start from. -/
structure DependencyGraph where
  edges : List (String × List String)
  deriving DecidableEq, Repr, Inhabited

namespace DependencyGraph

def empty : DependencyGraph := ⟨[]⟩

def dependencies (g : DependencyGraph) (node : String) : List String :=
  (g.edges.lookup node).getD []

/-- Add edges from a node, after those it has. -/
def insert (node : String) (targets : List String) :
    List (String × List String) → List (String × List String)
  | [] => [(node, targets)]
  | (other, known) :: edges =>
    if other = node then (other, known ++ targets) :: edges
    else (other, known) :: insert node targets edges

def add (g : DependencyGraph) (node : String) (targets : List String) : DependencyGraph :=
  ⟨insert node targets g.edges⟩

/-- The declarations of a batch that have a converter. -/
def ofBatch (b : Batch) : DependencyGraph :=
  let names := (b.entries.map Prod.fst).eraseDups.filter b.hasConverter
  ⟨names.map fun name => (name, b.converterDependencies name)⟩

/-- Search in depth from a node. The path leads back to the start; nodes that are done lie on no
cycle. Gives the nodes that are done, or a cycle as a closed path. -/
def visit (g : DependencyGraph) :
    Nat → List String → List String → String → Except (List String) (List String)
  | 0, _, done, _ => .ok done
  | fuel + 1, path, done, node =>
    if path.contains node then
      .error (node :: (path.takeWhile (· ≠ node)).reverse ++ [node])
    else if done.contains node then .ok done
    else do
      let done ← (g.dependencies node).foldlM
        (fun done next => g.visit fuel (node :: path) done next) done
      return node :: done

/-- The first cycle that is reachable from a node, from a node on it back to that node. A path
without repetitions is no longer than there are nodes with edges, and one. -/
def cycleFrom? (g : DependencyGraph) (start : String) : Option (List String) :=
  match g.visit (g.edges.length + 2) [] [] start with
  | .ok _ => none
  | .error cycle => some cycle

end DependencyGraph

end Companion

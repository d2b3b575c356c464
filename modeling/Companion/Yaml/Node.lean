import Companion.Yaml.Lexer

/-! The nodes of a YAML document.

A text holds one document, or none. Nodes with an anchor are kept aside by a number, which is the
number of anchor names known when the node starts; of nodes with one number the last counts.
-/

set_option autoImplicit false

namespace Companion.Yaml

inductive Node where
  | aliasOf (anchor : Nat)
  | scalar (tag : Option Tag) (style : Style) (text : String)
  | sequence (tag : Option Tag) (items : List Node)
  | mapping (tag : Option Tag) (entries : List (Node × Node))
  deriving Inhabited, Repr

namespace Node

/-- A scalar that is not written at all. -/
def blank (tag : Option Tag) : Node := scalar tag .plain ""

mutual

/-- The number of nodes and of ends of collections. -/
def size : Node → Nat
  | aliasOf _ => 1
  | scalar .. => 1
  | sequence _ items => sizes items + 2
  | mapping _ entries => entrySizes entries + 2

def sizes : List Node → Nat
  | [] => 0
  | n :: others => size n + sizes others

def entrySizes : List (Node × Node) → Nat
  | [] => 0
  | (k, n) :: others => size k + size n + entrySizes others

end

end Node

/-- A node with an anchor. -/
structure Anchored where
  number : Nat
  /-- Place among the nodes with anchors, by their starts. -/
  place : Nat
  node : Node

structure Document where
  /-- There is none if the text is empty. -/
  root : Option Node
  anchored : List Anchored

namespace Document

/-- The node that an alias stands for. -/
def target? (d : Document) (number : Nat) : Option Node :=
  let known := d.anchored.filter (·.number == number)
  (known.find? fun a => known.all (·.place ≤ a.place)).map (·.node)

end Document

/-- What is left of the tokens, the handles of tags, the names of anchors and the nodes that have
them. -/
structure Composer where
  tokens : List Token
  handles : List (String × Tag)
  names : List (String × Nat)
  places : Nat
  anchored : List Anchored

abbrev Compose := StateT Composer Option

namespace Compose

def peek : Compose Token := return (← get).tokens.headD .streamEnd

def drop : Compose Unit := modify fun s => { s with tokens := s.tokens.tail }

/-- Pass a token if it is the one given. -/
def accept (t : Token) : Compose Bool := do
  if (← peek) == t then
    drop
    return true
  return false

def expect (t : Token) : Compose Unit := do
  guard (← accept t)

/-- The tag of a handle and a suffix. -/
def resolveTag (handle : String) (suffix : Tag) : Compose Tag := do
  if handle.isEmpty then return suffix
  let some expansion := (← get).handles.lookup handle | failure
  return expansion.append suffix

/-- An anchor and a tag in either order. -/
def properties : Compose (Option String × Option Tag) := do
  match ← peek with
  | .anchor name =>
    drop
    match ← peek with
    | .tag handle suffix =>
      drop
      return (some name, some (← resolveTag handle suffix))
    | _ => return (some name, none)
  | .tag handle suffix =>
    drop
    match ← peek with
    | .anchor name =>
      drop
      return (some name, some (← resolveTag handle suffix))
    | _ => return (none, some (← resolveTag handle suffix))
  | _ => return (none, none)

/-- The number and the place of a node that starts here with an anchor. -/
def register (name : String) : Compose (Nat × Nat) := do
  let s ← get
  let number := s.names.length
  let names := (name, number) :: s.names.filter fun (other, _) => other ≠ name
  set { s with names, places := s.places + 1 }
  return (number, s.places)

/-- Keep a node that has an anchor. -/
def keep (anchor : Option (Nat × Nat)) (node : Node) : Compose Node := do
  match anchor with
  | some (number, place) =>
    modify fun s => { s with anchored := ⟨number, place, node⟩ :: s.anchored }
    return node
  | none => return node

mutual

/-- A node. A sequence in block style need not be indented if it is an entry of a mapping. A lone
mark as the tag of a scalar says nothing. -/
def node (block unindented : Bool) : Nat → Compose Node
  | 0 => failure
  | fuel + 1 => do
    match ← peek with
    | .aliasOf name =>
      drop
      let some number := (← get).names.lookup name | failure
      return .aliasOf number
    | _ =>
      let (name, tag) ← properties
      let anchor ← name.mapM register
      match ← peek with
      | .blockEntry =>
        if unindented then
          keep anchor (.sequence tag (← unindentedItems fuel))
        else
          guard (name.isSome || tag.isSome)
          keep anchor (.blank tag)
      | .scalar style text =>
        drop
        keep anchor (.scalar (tag.filter (· ≠ .lone)) style text)
      | .flowSequenceStart =>
        drop
        keep anchor (.sequence tag (← flowItems true fuel))
      | .flowMappingStart =>
        drop
        keep anchor (.mapping tag (← flowEntries true fuel))
      | t =>
        if block && t == .blockSequenceStart then
          drop
          keep anchor (.sequence tag (← blockItems fuel))
        else if block && t == .blockMappingStart then
          drop
          keep anchor (.mapping tag (← blockEntries fuel))
        else
          guard (name.isSome || tag.isSome)
          keep anchor (.blank tag)

/-- A node, unless one of the tokens comes that may follow its place. -/
def nodeUnless (ends : List Token) (block unindented : Bool) : Nat → Compose Node
  | 0 => failure
  | fuel + 1 => do
    if ends.contains (← peek) then return .blank none
    node block unindented fuel

def blockItems : Nat → Compose (List Node)
  | 0 => failure
  | fuel + 1 => do
    if ← accept .blockEntry then
      let item ← nodeUnless [.blockEntry, .blockEnd] true false fuel
      return item :: (← blockItems fuel)
    expect .blockEnd
    return []

def unindentedItems : Nat → Compose (List Node)
  | 0 => failure
  | fuel + 1 => do
    if ← accept .blockEntry then
      let item ← nodeUnless [.blockEntry, .key, .value, .blockEnd] true false fuel
      return item :: (← unindentedItems fuel)
    return []

/-- The value behind a colon, if there is one. -/
def blockValue : Nat → Compose Node
  | 0 => failure
  | fuel + 1 => do
    if ← accept .value then nodeUnless [.key, .value, .blockEnd] true true fuel
    else return .blank none

def blockEntries : Nat → Compose (List (Node × Node))
  | 0 => failure
  | fuel + 1 => do
    if ← accept .key then
      let key ← nodeUnless [.key, .value, .blockEnd] true true fuel
      let value ← blockValue fuel
      return (key, value) :: (← blockEntries fuel)
    expect .blockEnd
    return []

/-- The one entry of a mapping inside a flow sequence, behind the mark of its key. Where a key is
left out, the token after the mark is passed. -/
def flowPair : Nat → Compose Node
  | 0 => failure
  | fuel + 1 => do
    let key ← if [Token.value, .flowEntry, .flowSequenceEnd].contains (← peek) then
        drop
        pure (.blank none)
      else node false false fuel
    let value ← if ← accept .value then nodeUnless [.flowEntry, .flowSequenceEnd] false false fuel
      else pure (.blank none)
    return .mapping none [(key, value)]

def flowItems (first : Bool) : Nat → Compose (List Node)
  | 0 => failure
  | fuel + 1 => do
    if ← accept .flowSequenceEnd then return []
    if !first then
      expect .flowEntry
      if ← accept .flowSequenceEnd then return []
    let item ← if ← accept .key then flowPair fuel else node false false fuel
    return item :: (← flowItems false fuel)

/-- The value of a flow entry, if there is one. -/
def flowValue : Nat → Compose Node
  | 0 => failure
  | fuel + 1 => do
    if ← accept .value then nodeUnless [.flowEntry, .flowMappingEnd] false false fuel
    else return .blank none

def flowEntries (first : Bool) : Nat → Compose (List (Node × Node))
  | 0 => failure
  | fuel + 1 => do
    if ← accept .flowMappingEnd then return []
    if !first then
      expect .flowEntry
      if ← accept .flowMappingEnd then return []
    let entry ← if ← accept .key then do
        let key ← nodeUnless [.value, .flowEntry, .flowMappingEnd] false false fuel
        pure (key, ← flowValue fuel)
      else do
        let key ← node false false fuel
        pure (key, .blank none)
    return entry :: (← flowEntries false fuel)

end

def standardHandles : List (String × Tag) :=
  [("!", .lone), ("!!", .ofText "tag:yaml.org,2002:")]

/-- Directives before a document. A version is given once, and a handle too. -/
def directives : Nat → Bool → List (String × Tag) → Compose (List (String × Tag))
  | 0, _, _ => failure
  | fuel + 1, versioned, handles => do
    match ← peek with
    | .version major minor =>
      guard (!versioned && major = 1 && (minor = 1 || minor = 2))
      drop
      directives fuel true handles
    | .tagDirective handle expansion =>
      guard (handles.lookup handle).isNone
      drop
      directives fuel versioned ((handle, expansion) :: handles)
    | _ => return handles

def isDirective : Token → Bool
  | .version .. | .tagDirective .. => true
  | _ => false

/-- The content of a document that is marked as one. -/
def markedDocument (fuel : Nat) : Compose Node := do
  let handles ← directives fuel false []
  modify fun s => { s with handles := handles ++ standardHandles }
  expect .documentStart
  let t ← peek
  if isDirective t || [Token.documentStart, .documentEnd, .streamEnd].contains t then
    return .blank none
  node true false fuel

def document (fuel : Nat) : Compose (Option Node) := do
  let t ← peek
  if t == .streamEnd then return none
  if isDirective t || t == .documentStart then return some (← markedDocument fuel)
  return some (← node true false fuel)

/-- Pass marks of the end of a document. -/
def documentEnds : Nat → Compose Unit
  | 0 => failure
  | fuel + 1 => do
    if ← accept .documentEnd then documentEnds fuel

/-- All of a text. -/
def stream (fuel : Nat) : Compose (Option Node) := do
  let root ← document fuel
  documentEnds fuel
  guard ((← peek) == .streamEnd)
  return root

end Compose

def Document.ofText? (text : String) : Option Document := do
  let tokens := (← tokens? text).toList
  let (root, s) ←
    (Compose.stream (4 * tokens.length + 8)).run ⟨tokens, Compose.standardHandles, [], 0, []⟩
  return ⟨root, s.anchored⟩

end Companion.Yaml

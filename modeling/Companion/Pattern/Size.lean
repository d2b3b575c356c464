import Companion.Pattern.Node
import Companion.Unicode.Bytes

/-! How large the automaton of a pattern is, in bytes.

A pattern is compiled to states that read a text forward, and to others that read it backward. A
state takes 32 bytes, and those with several ways on take more.
-/

set_option autoImplicit false

namespace Companion.Pattern

open Unicode

/-- The states of a part. One that ends in a state with several ways on takes four bytes more
for each state that it leads to. -/
structure Cost where
  bytes : Nat
  endsOpen : Bool
  deriving Repr

namespace Cost

def state : Nat := 32

/-- A way on, of which a state has several. -/
def way : Nat := 4

/-- A way on that reads a byte. -/
def transition : Nat := 8

def closed (bytes : Nat) : Cost := ⟨bytes, false⟩

/-- A part that leads on. -/
def linked (c : Cost) : Nat := c.bytes + (if c.endsOpen then way else 0)

/-- Parts in the order they are read. -/
def chain : List Cost → Cost
  | [] => closed state
  | [c] => c
  | c :: others =>
    let rest := chain others
    ⟨c.linked + rest.bytes, rest.endsOpen⟩

/-- A part that is read exactly so often. -/
def times (c : Cost) : Nat → Cost
  | 0 => closed state
  | n + 1 => ⟨c.linked * n + c.bytes, c.endsOpen⟩

/-- A part that may be left out. -/
def optional (c : Cost) : Cost := closed (2 * state + 2 * way + c.linked)

/-- A part that is read again and again; `mayBeEmpty` if it matches the empty text. -/
def atLeast (c : Cost) (mayBeEmpty : Bool) : Nat → Cost
  | 0 =>
    if mayBeEmpty then closed (3 * state + 4 * way + c.linked)
    else ⟨state + way + c.linked, true⟩
  | 1 => ⟨state + way + c.linked, true⟩
  | n + 2 => ⟨(c.times (n + 1)).linked + state + way + c.linked, true⟩

def atLeastAtMost (c : Cost) (least most : Nat) : Cost :=
  if least = most then c.times least
  else closed ((c.times least).linked + state + (most - least) * (state + 2 * way + c.linked))

/-- Alternatives, one way on to each. -/
def choice (costs : List Cost) : Cost :=
  closed (costs.foldl (fun n c => n + way + c.linked) (2 * state))

/-! ### Sets -/

/-- A set below 128 is one state with a way on for each span. -/
def ofAscii (members : Ranges) : Cost :=
  closed (2 * state + transition * members.spans.length)

/-- Forward, what may follow is stored once. -/
def setForward (members : Ranges) : Nat :=
  (ByteTree.ofRanges members).subtrees.foldl (fun n t => n + state + transition * t.width) state

/-- Backward, each row of bytes is an alternative, and beginnings are stored once. -/
def setBackward (members : Ranges) : Nat :=
  let tree := ByteTree.ofRanges members
  2 * state + way * tree.rows + state * tree.size

def ofSet (backward : Bool) (members : Ranges) : Cost :=
  if members.isAscii then ofAscii members
  else closed (if backward then setBackward members else setForward members)

/-! ### Texts -/

def bytesOf (chars : List Char) : List UInt8 := chars.flatMap String.utf8EncodeChar

def ofText (chars : List Char) : Cost := closed (state * (bytesOf chars).length)

/-- The texts between those that are empty, first those before the first. -/
def segments : List (List UInt8) → List (List (UInt8 × List UInt8))
  | [] => [[]]
  | [] :: others => [] :: segments others
  | (b :: rest) :: others =>
    match segments others with
    | [] => [[(b, rest)]]
    | segment :: later => ((b, rest) :: segment) :: later

/-- Texts that may follow, in order of preference, as a tree of their bytes. An empty text ends a
state's ways on, and further ones open a state of their own beside it. -/
def ofTrie : Nat → List (List UInt8) → Nat
  | 0, _ => 0
  | fuel + 1, texts =>
    let all := segments texts
    let later := all.tail
    let chunks := all.head?.toList ++ later.dropLast.filter (!·.isEmpty) ++ later.getLast?.toList
    let filled := chunks.filter (!·.isEmpty)
    if filled.isEmpty then 0
    else
      let chunkCost (chunk : List (UInt8 × List UInt8)) : Nat :=
        let bytes := (chunk.map Prod.fst).eraseDups
        let ways := if bytes.length = 1 then state else state + transition * bytes.length
        bytes.foldl (fun n b => n + ofTrie fuel (chunk.filterMap fun (c, rest) =>
          if c = b then some rest else none)) ways
      filled.foldl (fun n chunk => n + chunkCost chunk)
        (state + way * (filled.length + (chunks.length - 1)))

/-- Alternatives that are all texts. -/
def ofTexts (backward : Bool) (texts : List (List Char)) : Cost :=
  let texts := texts.map fun chars =>
    if backward then (bytesOf chars).reverse else bytesOf chars
  closed (state + ofTrie (texts.foldl (fun n text => max n (text.length + 1)) 0) texts)

end Cost

namespace Node

/-- The texts, if all of the nodes are texts. -/
def texts? : List Node → Option (List (List Char))
  | [] => some []
  | text chars :: others => return chars :: (← texts? others)
  | _ => none

mutual

/-- The states of a node, for reading forward or backward. Only forward do they record what is
captured. -/
def cost (backward : Bool) : Node → Cost
  | empty => .closed Cost.state
  | text chars => .ofText chars
  | set members => .ofSet backward members
  | look _ => .closed Cost.state
  | repetition least most _ inner =>
    let c := cost backward inner
    match least, most with
    | 0, some 1 => c.optional
    | least, some most => c.atLeastAtMost least most
    | least, none => c.atLeast (!(minLength? inner).any (0 < ·)) least
  | capture _ inner =>
    let c := cost backward inner
    if backward then c else .closed (2 * Cost.state + c.linked)
  | concat parts =>
    let parts := costs backward parts
    .chain (if backward then parts.reverse else parts)
  | alternation branches =>
    match texts? branches with
    | some texts => .ofTexts backward texts
    | none => .choice (costs backward branches)

def costs (backward : Bool) : List Node → List Cost
  | [] => []
  | node :: others => cost backward node :: costs backward others

end

/-- Whether the first of the parts requires what is sought, where those before it that match the
empty text alone may also do so. Of each part it is told whether it requires it, and whether it
matches the empty text alone. -/
def leads : List (Bool × Bool) → Bool
  | [] => false
  | (requires, isEmpty) :: others => requires || (isEmpty && leads others)

mutual

/-- Whether the node matches only where `look` holds, at its beginning or at its end. -/
def requires (look : Look) (atEnd : Bool) : Node → Bool
  | .look l => l == look
  | repetition least _ _ inner => least > 0 && requires look atEnd inner
  | capture _ inner => requires look atEnd inner
  | concat parts =>
    leads (if atEnd then (requiredEach look atEnd parts).reverse else requiredEach look atEnd parts)
  | alternation branches => (requiredEach look atEnd branches).all Prod.fst
  | _ => false

def requiredEach (look : Look) (atEnd : Bool) : List Node → List (Bool × Bool)
  | [] => []
  | node :: others =>
    (requires look atEnd node, maxLength? node = some 0) :: requiredEach look atEnd others

end

/-- The size of the automaton. Unless the pattern matches at one end of the text alone, there are
states that pass other characters before it. -/
def automatonSize (backward : Bool) (node : Node) : Nat :=
  let anchored := node.requires (if backward then .textEnd else .textStart) backward
  let any := Cost.ofAscii (.range '\x00' '\x7f')
  let start := if anchored then Cost.state else (any.atLeast false 0).linked
  let captured := if backward then node.cost backward else (capture 0 node).cost backward
  start + captured.linked + Cost.state

/-- Patterns whose automata are larger are refused: ten mebibytes. -/
def sizeLimit : Nat := 10485760

def isSmall (node : Node) : Bool :=
  node.automatonSize false ≤ sizeLimit && node.automatonSize true ≤ sizeLimit

end Node

end Companion.Pattern

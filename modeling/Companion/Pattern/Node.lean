import Companion.Unicode.CaseFold

/-! What a regular expression means once its flags are resolved.

Nodes are built in a simple form: no sequence stands in a sequence, no alternative in an
alternative, neighbouring texts are one, and what alternatives begin with alike stands before them.
-/

set_option autoImplicit false

namespace Companion.Pattern

open Unicode

/-- What holds between two characters. -/
inductive Look where
  | textStart
  | textEnd
  | lineStart (crlf : Bool)
  | lineEnd (crlf : Bool)
  | wordBoundary (unicode negated : Bool)
  | wordStart (unicode : Bool)
  | wordEnd (unicode : Bool)
  | wordStartHalf (unicode : Bool)
  | wordEndHalf (unicode : Bool)
  deriving DecidableEq, Repr

inductive Node where
  | empty
  | text (chars : List Char)
  | set (members : Ranges)
  | look (look : Look)
  | repetition (least : Nat) (most : Option Nat) (greedy : Bool) (inner : Node)
  | capture (index : Nat) (inner : Node)
  | concat (parts : List Node)
  | alternation (branches : List Node)
  deriving Inhabited

namespace Node

mutual

/-- Whether two nodes are written alike, which those that capture never are. -/
def same : Node → Node → Bool
  | empty, empty => true
  | text s, text t => s == t
  | set s, set t => s == t
  | look k, look l => k == l
  | repetition least most greedy inner, repetition min max eager other =>
    least == min && most == max && greedy == eager && same inner other
  | capture i inner, capture j other => i == j && same inner other
  | concat parts, concat others => sameEach parts others
  | alternation branches, alternation others => sameEach branches others
  | _, _ => false

def sameEach : List Node → List Node → Bool
  | [], [] => true
  | first :: rest, other :: others => same first other && sameEach rest others
  | _, _ => false

end

mutual

/-- The number of nodes. -/
def count : Node → Nat
  | repetition _ _ _ inner => count inner + 1
  | capture _ inner => count inner + 1
  | concat parts => countAll parts + 1
  | alternation branches => countAll branches + 1
  | _ => 1

def countAll : List Node → Nat
  | [] => 0
  | node :: others => count node + countAll others

end

/-! ### Lengths -/

def addLengths : List (Option Nat) → Option Nat
  | [] => some 0
  | n :: others => return (← n) + (← addLengths others)

/-- The extreme of lengths that are all known. -/
def extreme (choose : Nat → Nat → Nat) : List (Option Nat) → Option Nat
  | [] => none
  | [n] => n
  | n :: others => return choose (← n) (← extreme choose others)

def textLength (chars : List Char) : Nat := chars.foldl (fun n c => n + c.utf8Size) 0

mutual

/-- The least number of bytes that a match has; a set without members has none. -/
def minLength? : Node → Option Nat
  | empty => some 0
  | text chars => some (textLength chars)
  | set members => members.spans.head?.map (·.first.utf8Size)
  | look _ => some 0
  | repetition least _ _ inner => (minLength? inner).map (· * least)
  | capture _ inner => minLength? inner
  | concat parts => addLengths (minLengths parts)
  | alternation branches => extreme min (minLengths branches)

def minLengths : List Node → List (Option Nat)
  | [] => []
  | node :: others => minLength? node :: minLengths others

end

mutual

/-- The greatest number of bytes that a match has, if there is one. -/
def maxLength? : Node → Option Nat
  | empty => some 0
  | text chars => some (textLength chars)
  | set members => members.spans.getLast?.map (·.last.utf8Size)
  | look _ => some 0
  | repetition _ most _ inner => return (← most) * (← maxLength? inner)
  | capture _ inner => maxLength? inner
  | concat parts => addLengths (maxLengths parts)
  | alternation branches => extreme max (maxLengths branches)

def maxLengths : List Node → List (Option Nat)
  | [] => []
  | node :: others => maxLength? node :: maxLengths others

end

/-! ### Simple forms -/

/-- The node that matches nothing. -/
def fail : Node := set .empty

/-- A set with one member is a text. -/
def ofSet (members : Ranges) : Node :=
  match members.only? with
  | some c => text [c]
  | none => set members

/-- What matches the empty text alone is not repeated. -/
def repeated (least : Nat) (most : Option Nat) (greedy : Bool) (inner : Node) : Node :=
  let (least, most) :=
    if inner.maxLength? = some 0 then (min least 1, some (min (most.getD 1) 1)) else (least, most)
  if least = 0 ∧ most = some 0 then empty
  else if least = 1 ∧ most = some 1 then inner
  else repetition least most greedy inner

def parts : Node → List Node
  | empty => []
  | concat parts => parts
  | node => [node]

def joinTexts : List Node → List Node
  | [] => []
  | text s :: others =>
    match joinTexts others with
    | text t :: others => text (s ++ t) :: others
    | others => text s :: others
  | node :: others => node :: joinTexts others

def sequence (nodes : List Node) : Node :=
  match joinTexts (nodes.flatMap parts) with
  | [] => empty
  | [node] => node
  | nodes => concat nodes

def branches : Node → List Node
  | alternation branches => branches
  | node => [node]

/-- The characters of texts that have one each. -/
def singletons? : List Node → Option (List Char)
  | [] => some []
  | text [c] :: others => return c :: (← singletons? others)
  | _ => none

/-- The sets, if all of the nodes are sets. -/
def sets? : List Node → Option (List Ranges)
  | [] => some []
  | set members :: others => return members :: (← sets? others)
  | _ => none

/-- The parts of each node, if all of them are sequences. -/
def sequences? : List Node → Option (List (List Node))
  | [] => some []
  | concat parts :: others => return parts :: (← sequences? others)
  | _ => none

def commonBeginning : List Node → List Node → List Node
  | first :: rest, other :: others =>
    if first.same other then first :: commonBeginning rest others else []
  | _, _ => []

/-- What all of the nodes begin with. -/
def beginning (nodes : List Node) : List Node :=
  match sequences? nodes with
  | some (parts :: others) => others.foldl commonBeginning parts
  | _ => []

/-- Alternatives in simple form. Each step takes nodes from their beginnings, so that as many
steps as there are nodes are enough. -/
def choiceWithin : Nat → List Node → Node
  | fuel, nodes =>
    match nodes.flatMap branches with
    | [] => fail
    | [node] => node
    | nodes =>
      match singletons? nodes, sets? nodes with
      | some chars, _ => ofSet (.ofList chars)
      | none, some sets => ofSet (.unions sets)
      | none, none =>
        match fuel, beginning nodes with
        | _, [] => alternation nodes
        | 0, _ => alternation nodes
        | fuel + 1, shared =>
          let rests := nodes.map fun node => sequence (node.parts.drop shared.length)
          sequence (shared ++ [choiceWithin fuel rests])

def choice (nodes : List Node) : Node := choiceWithin (countAll nodes) nodes

end Node

end Companion.Pattern

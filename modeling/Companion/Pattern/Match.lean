import Companion.Pattern.Resolve
import Companion.Pattern.Size

/-! Where patterns match. A node takes the places where a match may start to those where it may
end, so that no path is followed twice. -/

set_option autoImplicit false

namespace Companion.Pattern

/-- A text by its characters. -/
abbrev Subject := Array Char

namespace Look

def before? (text : Subject) (i : Nat) : Option Char := if i = 0 then none else text[i - 1]?

def isWord (unicode : Bool) (c : Option Char) : Bool :=
  c.any fun c => if unicode then Unicode.Property.isWord c else c.isAlphanum || c == '_'

def holds (text : Subject) (i : Nat) (look : Look) : Bool :=
  let before := before? text i
  let after := text[i]?
  match look with
  | textStart => before.isNone
  | textEnd => after.isNone
  | lineStart false => before.isNone || before == some '\n'
  | lineStart true => before.isNone || before == some '\n' ||
    (before == some '\r' && after != some '\n')
  | lineEnd false => after.isNone || after == some '\n'
  | lineEnd true => after.isNone || after == some '\r' ||
    (after == some '\n' && before != some '\r')
  | wordBoundary unicode negated => (isWord unicode before != isWord unicode after) != negated
  | wordStart unicode => !isWord unicode before && isWord unicode after
  | wordEnd unicode => isWord unicode before && !isWord unicode after
  | wordStartHalf unicode => !isWord unicode before
  | wordEndHalf unicode => !isWord unicode after

end Look

/-- Places between the characters of a text, in rising order. -/
abbrev Places := List Nat

namespace Places

/-- Add a place, unless it is there. -/
def insert (i : Nat) : Places → Places
  | [] => [i]
  | j :: others => if i < j then i :: j :: others else if i = j then j :: others
    else j :: insert i others

def union (a b : Places) : Places := b.foldl (fun places i => insert i places) a

/-- The places of the second list that are not in the first. -/
def beyond (known new : Places) : Places := new.filter fun i => !known.contains i

/-- Apply a step exactly `n` times, or until it no longer changes anything. -/
def iterate (step : Places → Places) : Nat → Places → Places
  | 0, places => places
  | n + 1, places =>
    let next := step places
    if next == places then places else iterate step n next

/-- Apply a step at most `n` times to the newly reached places, and keep all that are reached. -/
def closure (step : Places → Places) : Nat → Places → Places → Places
  | 0, known, _ => known
  | n + 1, known, new =>
    let found := beyond known (step new)
    if found.isEmpty then known else closure step n (known.union found) found

end Places

namespace Node

/-- The place after the characters, if they stand at a place. -/
def endOfText? (text : Subject) : List Char → Nat → Option Nat
  | [], i => some i
  | c :: others, i => if text[i]? = some c then endOfText? text others (i + 1) else none

mutual

/-- Where matches end that start in one of the places. -/
def ends (subject : Subject) : Node → Places → Places
  | empty, places => places
  | text chars, places => places.filterMap (endOfText? subject chars)
  | set members, places =>
    (places.filter fun i => subject[i]?.any members.contains).map (· + 1)
  | look l, places => places.filter (l.holds subject ·)
  | repetition least most _ inner, places =>
    let places := Places.iterate (ends subject inner) least places
    let others := match most with
      | some most => most - least
      | none => subject.size
    Places.closure (ends subject inner) others places places
  | capture _ inner, places => ends subject inner places
  | concat parts, places => endsInTurn subject parts places
  | alternation branches, places => endsOfAny subject branches places

def endsInTurn (subject : Subject) : List Node → Places → Places
  | [], places => places
  | node :: others, places => endsInTurn subject others (ends subject node places)

def endsOfAny (subject : Subject) : List Node → Places → Places
  | [], _ => []
  | node :: others, places => (ends subject node places).union (endsOfAny subject others places)

end

/-- Whether some part of the text matches. -/
def occursIn (node : Node) (text : String) : Bool :=
  let subject := text.toList.toArray
  !(node.ends subject (List.range (subject.size + 1))).isEmpty

/-- The meaning of a pattern, unless it is invalid or too large. -/
def parse? (pattern : String) : Option Node := do
  let ast ← Ast.parse? pattern
  let (node, _) ← ofAst? .standard ast
  guard node.isSmall
  return node

end Node

/-- Whether the text is a regular expression. -/
def isValid (pattern : String) : Bool := (Node.parse? pattern).isSome

/-- The pattern between the ends of the text, as it is put there: a pattern with unbalanced
parentheses may close the group around it. -/
def anchored (pattern : String) : String := "^(?:" ++ pattern ++ ")$"

/-- Whether the whole text matches. An invalid pattern matches nothing. -/
def matchesWhole (pattern text : String) : Bool :=
  (Node.parse? (anchored pattern)).any (·.occursIn text)

end Companion.Pattern

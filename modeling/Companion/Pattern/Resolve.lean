import Companion.Pattern.CharSet
import Companion.Pattern.Node
import Companion.Pattern.Parser

/-! Resolving the flags of regular expressions. -/

set_option autoImplicit false

namespace Companion.Pattern

open Unicode

/-- The flags that change what matches. -/
structure Settings where
  caseInsensitive : Bool
  multiLine : Bool
  dotAll : Bool
  swapGreed : Bool
  unicode : Bool
  crlf : Bool
  deriving DecidableEq, Repr

/-- How a pattern is read that sets no flag. -/
def Settings.standard : Settings := ⟨false, false, false, false, true, false⟩

def Settings.set (s : Settings) : Flag × Bool → Settings
  | (.caseInsensitive, on) => { s with caseInsensitive := on }
  | (.multiLine, on) => { s with multiLine := on }
  | (.dotAll, on) => { s with dotAll := on }
  | (.swapGreed, on) => { s with swapGreed := on }
  | (.unicode, on) => { s with unicode := on }
  | (.crlf, on) => { s with crlf := on }
  | (.ignoreBlanks, _) => s

def Settings.update (s : Settings) (flags : Flags) : Settings := flags.foldl Settings.set s

namespace CharSet

/-- The members in either case, if case does not count. -/
def fold (s : Settings) (members : Ranges) : Ranges :=
  if s.caseInsensitive then foldCase s.unicode members else members

/-- Without Unicode a set holds ASCII characters only, and no negation does. -/
def finish (s : Settings) (negated : Bool) (members : Ranges) : Option Ranges := do
  guard (s.unicode || !negated)
  return if negated then (fold s members).complement else fold s members

/-- Case is not looked at. -/
def ofShorthand? (s : Settings) (name : Shorthand) (negated : Bool) : Option Ranges := do
  guard (s.unicode || !negated)
  let members := ofShorthand s.unicode name
  return if negated then members.complement else members

def ofNamed? (s : Settings) (name : PropertyName) (negated : Bool) : Option Ranges := do
  guard s.unicode
  finish s negated (← ofProperty? name)

/-- Without Unicode a class names ASCII characters only. -/
def classMember? (s : Settings) (l : Literal) : Option Char :=
  if s.unicode || l.char.toNat < 128 then some l.char else none

mutual

def ofClass? (s : Settings) : ClassExpr → Option Ranges
  | .empty => some .empty
  | .literal l => return .single (← classMember? s l)
  | .range first last => return .range (← classMember? s first) (← classMember? s last)
  | .ascii name negated => finish s negated (ofAsciiClass name)
  | .property name negated => ofNamed? s name negated
  | .shorthand name negated => ofShorthand? s name negated
  | .bracketed inner negated => do finish s negated (← ofClass? s inner)
  | .union members => return .unions (← ofClasses? s members)
  | .operation operator left right => do
    return combine operator (fold s (← ofClass? s left)) (fold s (← ofClass? s right))

def ofClasses? (s : Settings) : List ClassExpr → Option (List Ranges)
  | [] => some []
  | e :: others => return (← ofClass? s e) :: (← ofClasses? s others)

end

end CharSet

namespace Node

/-- A character matches itself, or without case any that differs in case alone. Without Unicode
only ASCII letters have a case, and bytes beyond ASCII match nothing that is text. -/
def ofLiteral? (s : Settings) (l : Literal) : Option Node := do
  guard (s.unicode || !l.isByte || l.char.toNat < 128)
  return ofSet (CharSet.fold s (.single l.char))

def ofDot? (s : Settings) : Option Node := do
  guard s.unicode
  let barred := if s.dotAll then [] else if s.crlf then ['\n', '\r'] else ['\n']
  return set (Ranges.ofList barred).complement

def ofAssertion (s : Settings) : Assertion → Look
  | .lineStart => if s.multiLine then .lineStart s.crlf else .textStart
  | .lineEnd => if s.multiLine then .lineEnd s.crlf else .textEnd
  | .textStart => .textStart
  | .textEnd => .textEnd
  | .wordBoundary => .wordBoundary s.unicode false
  | .notWordBoundary => .wordBoundary s.unicode true
  | .wordStart => .wordStart s.unicode
  | .wordEnd => .wordEnd s.unicode
  | .wordStartHalf => .wordStartHalf s.unicode
  | .wordEndHalf => .wordEndHalf s.unicode

mutual

/-- The meaning of an expression, and the settings for what follows it. Flags hold to the end of
their group. -/
def ofAst? (s : Settings) : Ast → Option (Node × Settings)
  | .empty => some (empty, s)
  | .flags flags => some (empty, s.update flags)
  | .literal l => return (← ofLiteral? s l, s)
  | .dot => return (← ofDot? s, s)
  | .assertion a => some (look (ofAssertion s a), s)
  | .property name negated => return (ofSet (← CharSet.ofNamed? s name negated), s)
  | .shorthand name negated => return (ofSet (← CharSet.ofShorthand? s name negated), s)
  | .bracketed inner negated => do
    let members ← CharSet.ofClass? s inner
    return (ofSet (← CharSet.finish s negated members), s)
  | .repetition least most greedy inner => do
    let (node, s) ← ofAst? s inner
    return (repeated least most (greedy != s.swapGreed) node, s)
  | .capture index inner => do
    let (node, _) ← ofAst? s inner
    return (capture index node, s)
  | .group flags inner => do
    let (node, _) ← ofAst? (s.update flags) inner
    return (node, s)
  | .alternation branches => do
    let (nodes, s) ← ofAsts? s branches
    return (choice nodes, s)
  | .concat parts => do
    let (nodes, s) ← ofAsts? s parts
    return (sequence nodes, s)

def ofAsts? (s : Settings) : List Ast → Option (List Node × Settings)
  | [] => some ([], s)
  | ast :: others => do
    let (node, s) ← ofAst? s ast
    let (nodes, s) ← ofAsts? s others
    return (node :: nodes, s)

end

end Node

end Companion.Pattern

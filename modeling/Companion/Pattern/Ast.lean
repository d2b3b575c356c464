/-! Regular expressions as they are written. -/

set_option autoImplicit false

namespace Companion.Pattern

inductive Flag where
  | caseInsensitive
  | multiLine
  | dotAll
  | swapGreed
  | unicode
  | crlf
  | ignoreBlanks
  deriving DecidableEq, Repr

/-- Flags in a row, each set or cleared. -/
abbrev Flags := List (Flag × Bool)

/-- A character, written out or escaped. A two-digit escape stands for a byte outside Unicode
mode. -/
structure Literal where
  char : Char
  isByte : Bool
  deriving DecidableEq, Repr

/-- Classes with a letter of their own. -/
inductive Shorthand where
  | digit
  | space
  | word
  deriving DecidableEq, Repr

inductive Assertion where
  | lineStart
  | lineEnd
  | textStart
  | textEnd
  | wordBoundary
  | notWordBoundary
  | wordStart
  | wordEnd
  | wordStartHalf
  | wordEndHalf
  deriving DecidableEq, Repr

/-- Classes of ASCII characters with a name in brackets. -/
inductive AsciiClass where
  | alnum
  | alpha
  | ascii
  | blank
  | cntrl
  | digit
  | graph
  | lower
  | print
  | punct
  | space
  | upper
  | word
  | xdigit
  deriving DecidableEq, Repr

/-- A Unicode property: by a name alone, or as a value of a named one. -/
inductive PropertyName where
  | alone (name : String)
  | value (property name : String)
  deriving DecidableEq, Repr

inductive SetOperator where
  | intersection
  | difference
  | symmetricDifference
  deriving DecidableEq, Repr

/-- Bracketed classes. -/
inductive ClassExpr where
  | empty
  | literal (literal : Literal)
  | range (first last : Literal)
  | ascii (name : AsciiClass) (negated : Bool)
  | property (name : PropertyName) (negated : Bool)
  | shorthand (name : Shorthand) (negated : Bool)
  | bracketed (inner : ClassExpr) (negated : Bool)
  | union (members : List ClassExpr)
  | operation (operator : SetOperator) (left right : ClassExpr)
  deriving Repr, Inhabited

inductive Ast where
  | empty
  | flags (flags : Flags)
  | literal (literal : Literal)
  | dot
  | assertion (assertion : Assertion)
  | property (name : PropertyName) (negated : Bool)
  | shorthand (name : Shorthand) (negated : Bool)
  | bracketed (inner : ClassExpr) (negated : Bool)
  | repetition (least : Nat) (most : Option Nat) (greedy : Bool) (inner : Ast)
  | capture (index : Nat) (inner : Ast)
  | group (flags : Flags) (inner : Ast)
  | alternation (branches : List Ast)
  | concat (parts : List Ast)
  deriving Repr, Inhabited

namespace ClassExpr

mutual

/-- How deeply classes nest. -/
def depth : ClassExpr → Nat
  | bracketed inner _ => depth inner + 1
  | union members => maxDepth members + 1
  | operation _ left right => max (depth left) (depth right) + 1
  | _ => 0

def maxDepth : List ClassExpr → Nat
  | [] => 0
  | e :: others => max (depth e) (maxDepth others)

end

/-- A single member stands for itself. -/
def ofMembers : List ClassExpr → ClassExpr
  | [] => empty
  | [e] => e
  | members => union members

end ClassExpr

namespace Ast

mutual

/-- How deeply groups, repetitions, sequences, alternatives and classes nest. -/
def depth : Ast → Nat
  | bracketed inner _ => inner.depth + 1
  | repetition _ _ _ inner => depth inner + 1
  | capture _ inner => depth inner + 1
  | group _ inner => depth inner + 1
  | alternation branches => maxDepth branches + 1
  | concat parts => maxDepth parts + 1
  | _ => 0

def maxDepth : List Ast → Nat
  | [] => 0
  | e :: others => max (depth e) (maxDepth others)

end

def ofParts : List Ast → Ast
  | [] => empty
  | [e] => e
  | parts => concat parts

def ofBranches : List Ast → Ast
  | [e] => e
  | branches => alternation branches

end Ast

end Companion.Pattern

import Companion.Code.Lexer

/-! Types as they are written, before anything is asked of them. -/

set_option autoImplicit false

namespace Companion.Code

mutual

inductive TypeExpr where
  /-- A path; `qualified` if it starts from a type in angle brackets. -/
  | path (qualified : Bool) (path : Path)
  | reference (lifetime : Option String) (isMutable : Bool) (referent : TypeExpr)
  | slice (element : TypeExpr)
  /-- An array, with its length in decimal digits if that is an integer literal. -/
  | array (element : TypeExpr) (length : Option String)
  | tuple (elements : List TypeExpr)
  | parenthesized (inner : TypeExpr)
  /-- A sum of bounds; `isOpen` if a plus sign ends it. -/
  | traitObject (isDyn : Bool) (bounds : List Bound) (isOpen : Bool)
  | implTrait (bounds : List Bound)
  | function (output : Option TypeExpr)
  | pointer (target : TypeExpr)
  | never
  | macroCall (delimiter : Delimiter)
  | inferred
  /-- A form that is read but not kept; `braced` if its last token is a group in braces. -/
  | other (braced : Bool)
  deriving Repr

/-- A path; `absolute` if it starts with two colons. -/
inductive Path where
  | mk (absolute : Bool) (segments : List Segment)
  deriving Repr

inductive Segment where
  | mk (name : String) (arguments : Arguments)
  deriving Repr

inductive Arguments where
  | none
  | angled (arguments : List Argument)
  /-- Inputs and output of a function trait, of which the output is kept. -/
  | signature (output : Option TypeExpr)
  deriving Repr

inductive Argument where
  | type (type : TypeExpr)
  | other
  deriving Repr

inductive Bound where
  | trait (path : Path)
  | lifetime (name : String)
  | capture
  /-- A form that is read but not kept; `braced` if its last token is a group in braces. -/
  | other (braced : Bool)
  deriving Repr

end

instance : Inhabited TypeExpr := ⟨.inferred⟩

namespace Path

def absolute : Path → Bool
  | .mk absolute _ => absolute

def segments : Path → List Segment
  | .mk _ segments => segments

/-- No segment has arguments. -/
def isPlain (path : Path) : Bool := path.segments.all fun
  | .mk _ .none => true
  | _ => false

/-- The last segment has no arguments, or none between its angle brackets. -/
def endsPlain (path : Path) : Bool :=
  match path.segments.getLast? with
  | some (.mk _ .none) => true
  | some (.mk _ (.angled [])) => true
  | _ => false

/-- The path with arguments in parentheses after its last segment. -/
def withSignature (path : Path) (output : Option TypeExpr) : Path :=
  .mk path.absolute <| path.segments.dropLast ++
    (path.segments.getLast?.map fun (.mk name _) => Segment.mk name (.signature output)).toList

end Path

/-! ### The last token

A type ends in a closing brace if the type at its end is a macro call in braces. Parentheses
around a bound do not count.
-/

mutual

def TypeExpr.endsInBrace : TypeExpr → Bool
  | .path _ path => path.endsInBrace
  | .reference _ _ referent => referent.endsInBrace
  | .traitObject _ bounds _ => lastBoundEndsInBrace bounds
  | .implTrait bounds => lastBoundEndsInBrace bounds
  | .function output => outputEndsInBrace output
  | .pointer target => target.endsInBrace
  | .macroCall delimiter => delimiter = .brace
  | .other braced => braced
  | .slice _ | .array _ _ | .tuple _ | .parenthesized _ | .never | .inferred => false

def outputEndsInBrace : Option TypeExpr → Bool
  | some output => output.endsInBrace
  | none => false

def Path.endsInBrace : Path → Bool
  | .mk _ segments => lastSegmentEndsInBrace segments

def lastSegmentEndsInBrace : List Segment → Bool
  | [] => false
  | [last] => last.endsInBrace
  | _ :: second :: rest => lastSegmentEndsInBrace (second :: rest)

def Segment.endsInBrace : Segment → Bool
  | .mk _ (.signature output) => outputEndsInBrace output
  | .mk _ _ => false

def lastBoundEndsInBrace : List Bound → Bool
  | [] => false
  | [last] => last.endsInBrace
  | _ :: second :: rest => lastBoundEndsInBrace (second :: rest)

def Bound.endsInBrace : Bound → Bool
  | .trait path => path.endsInBrace
  | .other braced => braced
  | .lifetime _ | .capture => false

end

namespace TypeExpr

/-- The only segment of a path that has one and nothing before it. -/
def soleSegment? : TypeExpr → Option Segment
  | .path false (.mk false [segment]) => some segment
  | _ => none

/-- The bound that a type in parentheses stands for, if a plus sign follows it. -/
def asBound? : TypeExpr → Option Bound
  | .path false named => some (.trait named)
  | .traitObject false [bound] false => some bound
  | _ => none

end TypeExpr

end Companion.Code

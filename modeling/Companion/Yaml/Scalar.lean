import Companion.Decimal.Layout
import Companion.Decimal.Word
import Companion.Text.Basic
import Companion.Yaml.Lexer.Cursor

/-! What the text of a scalar stands for. -/

set_option autoImplicit false

namespace Companion.Yaml

def isNull (text : String) : Bool := ["null", "Null", "NULL", "~"].contains text

def bool? (text : String) : Option Bool :=
  if ["true", "True", "TRUE"].contains text then some true
  else if ["false", "False", "FALSE"].contains text then some false
  else none

def digitValue? (c : Char) : Option Nat :=
  if '0' ≤ c ∧ c ≤ '9' then some (c.toNat - 48)
  else if 'a' ≤ c ∧ c ≤ 'f' then some (c.toNat - 87)
  else if 'A' ≤ c ∧ c ≤ 'F' then some (c.toNat - 55)
  else none

/-- Digits in a base, at least one. -/
def digits? (base : Nat) (cs : List Char) : Option Nat :=
  if cs.isEmpty then none
  else cs.foldlM (fun n c => do
    let d ← digitValue? c
    if d < base then some (base * n + d) else none) 0

/-- A number after the mark of its base. -/
def based? : List Char → Option Nat
  | '0' :: 'x' :: rest => digits? 16 rest
  | '0' :: 'o' :: rest => digits? 8 rest
  | '0' :: 'b' :: rest => digits? 2 rest
  | _ => none

/-- Decimal digits are no number if they start with a zero, unless that is all. -/
def decimal? (cs : List Char) : Option Nat :=
  match cs with
  | '0' :: _ :: _ => none
  | _ => digits? 10 cs

def magnitude? (cs : List Char) : Option Nat := (based? cs).or (decimal? cs)

/-- An integer of any size. -/
def integer? (text : String) : Option Int :=
  match text.toList with
  | '-' :: rest => (magnitude? rest).map fun n => -(n : Int)
  | '+' :: rest => (magnitude? rest).map Int.ofNat
  | cs => (magnitude? cs).map Int.ofNat

/-- An integer that carries no minus sign. -/
def natural? (text : String) : Option Nat :=
  match text.toList with
  | '+' :: rest => magnitude? rest
  | cs => magnitude? cs

def isInfinity (text : String) : Bool := [".inf", ".Inf", ".INF"].contains text

/-- A finite float, or one of the words for those that are not. -/
def float? (text : String) : Option Float :=
  let (signed, magnitude) := match text.toList with
    | '+' :: rest => (true, String.ofList rest)
    | _ => (false, text)
  if signed && (Text.startsWith "+" magnitude || Text.startsWith "-" magnitude) then none
  else if isInfinity magnitude then some (1.0 / 0.0)
  else if ["-.inf", "-.Inf", "-.INF"].contains text then some (-1.0 / 0.0)
  else if [".nan", ".NaN", ".NAN"].contains text then some (0.0 / 0.0)
  else (Decimal.float? magnitude).filter Decimal.isFinite

/-- Digits that are no number because of a leading zero. -/
def isPaddedDigits (text : String) : Bool :=
  let cs := match text.toList with
    | '-' :: rest => rest
    | '+' :: rest => rest
    | cs => cs
  1 < cs.length && cs.head? == some '0' && cs.all Decimal.isDigit

/-- A scalar of a type that its text decides. -/
inductive Scalar where
  | null
  | bool (value : Bool)
  | integer (value : Int)
  | float (value : Float)
  | text (value : String)
  deriving Inhabited

namespace Scalar

/-- The scalar that an unquoted text is. Integers of more than 64 bits are refused, but those of
more than 128 are floats. -/
def ofPlain? (content : String) : Option Scalar :=
  if content.isEmpty || isNull content then some .null
  else
    match bool? content with
    | some b => some (.bool b)
    | none =>
      match integer? content with
      | some i =>
        if Word.fits 64 i then some (.integer i)
        else if Word.fits 128 i then none
        else some (((float? content).map .float).getD (.text content))
      | none =>
        if isPaddedDigits content then some (.text content)
        else some (((float? content).map .float).getD (.text content))

def nullTag : Tag := .ofText "tag:yaml.org,2002:null"

def boolTag : Tag := .ofText "tag:yaml.org,2002:bool"

def integerTag : Tag := .ofText "tag:yaml.org,2002:int"

def floatTag : Tag := .ofText "tag:yaml.org,2002:float"

/-- The scalar that a text is without a tag. -/
def ofUntagged? (style : Style) (content : String) : Option Scalar :=
  if style = .plain then ofPlain? content else some (.text content)

/-- The scalar that a text is under a tag. Tags of the document are refused, save for those without
a name, which say nothing. -/
def ofTagged? (tag : Tag) (style : Style) (content : String) : Option Scalar :=
  if tag.isLocal then (if tag.name?.isSome then none else ofUntagged? style content)
  else if tag = boolTag then (bool? content).map .bool
  else if tag = integerTag then
    (integer? content).bind fun i => if Word.fits 64 i then some (.integer i) else none
  else if tag = floatTag then (float? content).map .float
  else if tag = nullTag then if isNull content then some .null else none
  else some (.text content)

def of? (tag : Option Tag) (style : Style) (content : String) : Option Scalar :=
  match tag with
  | some tag => ofTagged? tag style content
  | none => ofUntagged? style content

end Scalar

end Companion.Yaml

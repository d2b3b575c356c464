import Companion.Contract.Validator
import Companion.Declaration.Basic
import Companion.Pattern.Match
import Companion.Text.Template
import Companion.TypeRef.Assignable

/-! Runtime checks from validators.

A validator on an element gives a condition over the variable that holds it and a message for
when it fails. How a validator is misused is found on the way; only an unknown tag gives neither.
-/

set_option autoImplicit false

namespace Companion

/-- What a validator is attached to: its name in messages and the variable that holds it. -/
structure Element where
  label : String
  binding : String
  type : TypeRef

/-- A runtime check. Its message is a template for the expressions in `arguments`. -/
structure Contract where
  subject : String
  condition : String
  message : String
  arguments : List String
  deriving DecidableEq, Repr, Inhabited

namespace Contract

/-- The message and its arguments as a formatting macro takes them. -/
def formatArguments (c : Contract) : String :=
  ", ".intercalate (Code.stringLiteral (Template.toFormat c.message) :: c.arguments)

def assertion (c : Contract) : String :=
  "assert!(" ++ c.condition ++ ", " ++ c.formatArguments ++ ");"

/-- An early return with a violation, for constructors. -/
def violationCheck (c : Contract) (runtimePath : String) : String :=
  "if !(" ++ c.condition ++ ") \x7b\n    return Err(" ++ runtimePath ++
    "::ContractViolation::new(" ++ Code.stringLiteral c.subject ++ ", format!(" ++
    c.formatArguments ++ ")));\n\x7d"

end Contract

/-- Types that a validator stands on. -/
inductive Domain where
  | integer
  | numeric
  | sized
  | text
  | ordered
  | optionCollection
  deriving DecidableEq, Repr

def Domain.description : Domain → String
  | integer => "integer type"
  | numeric => "numeric type"
  | sized => "type with a length"
  | text => "text type"
  | ordered => "ordered collection"
  | optionCollection => "collection of Option"

def Domain.contains (domain : Domain) (t : TypeRef) : Bool :=
  match domain with
  | integer => t.isInteger || t.isBigInteger
  | numeric => t.isNumeric
  | sized => t.isSized
  | text => t.isText
  | ordered => t.isCollection && !t.isMap
  | optionCollection => !t.isMap && t.elementType?.any TypeRef.isNullable

/-- Arguments that a validator takes. -/
inductive ArgumentForm where
  | integer
  | number
  | nonNegativeInteger
  | nonZeroNumber
  | pattern
  | type
  deriving DecidableEq, Repr

def ArgumentForm.description : ArgumentForm → String
  | integer => "integer"
  | number => "number"
  | nonNegativeInteger => "non-negative integer"
  | nonZeroNumber => "non-zero number"
  | pattern => "pattern string"
  | type => "type"

/-- A misuse of a validator. -/
inductive Finding where
  | inapplicable (validator : Validator) (label : String) (type : TypeRef) (expected : Domain)
  | missingArgument (validator : Validator) (label : String)
  | badArgument (validator : Validator) (label argument : String) (expected : ArgumentForm)
  | invalidPattern (pattern label : String)
  | notAssignable (label : String) (type target : TypeRef)
  deriving Repr

namespace Finding

def template : Finding → String
  | inapplicable .. => "The validator $ cannot be applied to $ of type $ ($ expected)."
  | missingArgument .. => "The validator $ on $ requires an argument."
  | badArgument .. => "The validator $ on $ has an invalid argument $ ($ expected)."
  | invalidPattern .. => "The regular expression $ on $ is invalid: $"
  | notAssignable .. => "The $ of type $ is not assignable to $."

def arguments : Finding → List String
  | inapplicable v label type expected => [v.tag, label, type.render, expected.description]
  | missingArgument v label => [v.tag, label]
  | badArgument v label argument expected => [v.tag, label, argument, expected.description]
  | invalidPattern pattern label => [pattern, label, Text.unexplained]
  | notAssignable label type target => [label, type.render, target.render]

def message (f : Finding) : String := Template.substitute f.template f.arguments

end Finding

/-- A check, if there is one at run time, and what was found on the way. -/
structure Synthesis where
  contract : Option Contract
  findings : List Finding

namespace Validator

/-- Where the validator stands; `assignableTo` stands anywhere. -/
def domain? : Validator → Option Domain
  | parity _ | multipleOf => some .integer
  | sign _ | compare _ => some .numeric
  | size _ => some .sized
  | pattern => some .text
  | strictOrder _ => some .ordered
  | nonNullableElements => some .optionCollection
  | assignableTo => none

/-- A condition and how a message says it, in a template that says it is to hold. -/
structure Rule where
  condition : String
  phrase : String
  /-- Whether the phrase needs a `be` before it. -/
  afterBe : Bool

/-- A rule, unless a misuse rules it out, and misuses. -/
abbrev Outcome := Option Rule × List Finding

def holds (condition phrase : String) : Outcome := (some ⟨condition, phrase, true⟩, [])

/-- Zero in a numeric type. -/
def zero (t : TypeRef) : String :=
  if t.isBigInteger then t.qualifiedName ++ "::from(0)" else if t.isFloat then "0.0" else "0"

/-- An argument in a numeric type. -/
def numericLiteral (v : Validator) (label : String) (t : TypeRef) (a : Argument) :
    String × List Finding :=
  match a with
  | .integer i =>
    if t.isBigInteger then (t.qualifiedName ++ "::from(" ++ a.display ++ ")", [])
    else if t.isFloat then (Decimal.sourceText (Float.ofInt i.toInt), [])
    else (a.display, [])
  | .float _ =>
    (a.display, if t.isFloat then [] else [.badArgument v label a.display .integer])
  | _ => (a.literal, [.badArgument v label a.display .number])

def parityRule (even : Bool) (t : TypeRef) (subject : String) : Outcome :=
  let phrase := if even then "even" else "uneven"
  if t.isBigInteger then
    holds (subject ++ ".trailing_zeros() " ++ (if even then "!=" else "==") ++ " Some(0)") phrase
  else holds (subject ++ " % 2 " ++ (if even then "==" else "!=") ++ " 0") phrase

def multipleOfRule (label : String) (t : TypeRef) (subject : String) (a : Argument) : Outcome :=
  let isZero := match a with
    | .integer i => i == 0
    | _ => false
  if isZero then (none, [.badArgument multipleOf label "0" .nonZeroNumber])
  else
    let (literal, findings) := numericLiteral multipleOf label t a
    let dividend := if t.isBigInteger then "&" ++ subject else subject
    (some ⟨dividend ++ " % " ++ literal ++ " == " ++ zero t,
      "a multiple of " ++ Template.escape a.display, true⟩, findings)

def signPhrase : Comparison → String
  | .greater => "positive"
  | .greaterOrEqual => "non-negative"
  | .less => "negative"
  | .lessOrEqual => "non-positive"

def comparisonPhrase : Comparison → String
  | .greater => "greater than"
  | .greaterOrEqual => "greater than or equal to"
  | .less => "less than"
  | .lessOrEqual => "less than or equal to"

def compareRule (c : Comparison) (label : String) (t : TypeRef) (subject : String)
    (a : Argument) : Outcome :=
  let (literal, findings) := numericLiteral (compare c) label t a
  (some ⟨subject ++ " " ++ c.symbol ++ " " ++ literal,
    comparisonPhrase c ++ " " ++ Template.escape a.display, true⟩, findings)

/-- A limit on the size by an argument. -/
def limitRule (rule : SizeRule) (operator phrase label subject : String) (a : Argument) :
    Outcome :=
  match a with
  | .integer i =>
    if 0 ≤ i then holds (subject ++ ".len() " ++ operator ++ " " ++ a.display)
      (phrase ++ " " ++ a.display)
    else (none, [.badArgument (size rule) label a.display .nonNegativeInteger])
  | _ => (none, [.badArgument (size rule) label a.display .nonNegativeInteger])

def patternRule (runtimePath label subject : String) (a : Argument) : Outcome :=
  match a with
  | .text p =>
    (some ⟨runtimePath ++ "::matches_regex(" ++ Code.stringLiteral p ++ ", &" ++ subject ++ ")",
      "match the regular expression \"" ++ Template.escape p ++ "\"", false⟩,
      if Pattern.isValid p then [] else [.invalidPattern p label])
  | _ => (none, [.badArgument pattern label a.display .pattern])

def orderRule (ascending : Bool) (subject : String) : Outcome :=
  let sign := if ascending then "<" else ">"
  holds (subject ++ ".iter().zip(" ++ subject ++ ".iter().skip(1)).all(|(a, b)| a " ++ sign ++
    " b)") (if ascending then "strictly ascending" else "strictly descending")

/-- The rule of a validator on a subject of a type. One without the argument it needs has none. -/
def rule (v : Validator) (runtimePath label : String) (t : TypeRef) (subject : String)
    (argument : Option Argument) : Outcome :=
  let withArgument (f : Argument → Outcome) : Outcome := argument.elim (none, []) f
  match v with
  | parity even => parityRule even t subject
  | multipleOf => withArgument (multipleOfRule label t subject)
  | sign c => holds (subject ++ " " ++ c.symbol ++ " " ++ zero t) (signPhrase c)
  | compare c => withArgument (compareRule c label t subject)
  | size .nonEmpty => holds (subject ++ ".len() != 0") "not zero"
  | size .empty => holds (subject ++ ".len() == 0") "zero"
  | size .emptyOrSingle => holds (subject ++ ".len() <= 1") "zero or one"
  | size .atMost => withArgument (limitRule .atMost "<=" "at most" label subject)
  | size .atLeast => withArgument (limitRule .atLeast ">=" "at least" label subject)
  | pattern => withArgument (patternRule runtimePath label subject)
  | strictOrder ascending => orderRule ascending subject
  | nonNullableElements =>
    (some ⟨subject ++ ".iter().all(Option::is_some)", "contain no None elements", false⟩, [])
  | assignableTo => (none, [])

end Validator

namespace Element

/-- The type a validator looks at: what an `Option` or a reference leads to. -/
def subjectType (e : Element) : TypeRef :=
  if e.type.isNullable then e.type.valueType.dereferenced else e.type.dereferenced

/-- The expression for the value of that type. -/
def subject (e : Element) : String :=
  if e.type.isNullable || e.type.isReference then "(*" ++ e.binding ++ ")" else e.binding

/-- The whole condition; an absent value meets any. -/
def condition (e : Element) (rule : Validator.Rule) : String :=
  if e.type.isNullable then
    e.binding ++ ".as_ref().map_or(true, |" ++ e.binding ++ "| " ++ rule.condition ++ ")"
  else rule.condition

/-- The message template, whose one hole is for the value, or the size if that is looked at. -/
def message (e : Element) (v : Validator) (rule : Validator.Rule) : String :=
  let label := Template.escape e.label
  let text := match v.isSize, e.type.isNullable with
    | true, false => "The size of " ++ label ++ " has to be " ++ rule.phrase
    | true, true => "The " ++ label ++ " has to be None or have a size of " ++ rule.phrase
    | false, false =>
      "The " ++ label ++ " has to " ++ (if rule.afterBe then "be " else "") ++ rule.phrase
    | false, true => "The " ++ label ++ " has to be None or " ++ rule.phrase
  text ++ " but was $."

/-- What the hole of the message is filled with. -/
def shown (e : Element) (v : Validator) : String :=
  if v.isSize && !e.type.isNullable then e.subject ++ ".len()" else e.binding

def contract (e : Element) (v : Validator) (rule : Validator.Rule) : Contract :=
  ⟨e.label, e.condition rule, e.message v rule, [e.shown v]⟩

/-- Misuse of a validator on a type it does not stand on. -/
def applicability (e : Element) (v : Validator) : List Finding :=
  match v.domain? with
  | some domain =>
    if domain.contains e.subjectType then [] else [.inapplicable v e.label e.type domain]
  | none => []

/-- Whether the element can stand for a type, as far as is known. -/
def assignabilityFindings (e : Element) (hierarchy : Hierarchy) (a : Argument) : List Finding :=
  let bad : List Finding := [.badArgument .assignableTo e.label a.display .type]
  match a with
  | .text name =>
    match TypeRef.parse name with
    | .ok target =>
      if e.type.assignability target hierarchy = .notAssignable then
        [.notAssignable e.label e.type target]
      else []
    | .error _ => bad
  | _ => bad

end Element

/-- What checks share in a batch: the known types and the path of the runtime support. -/
structure SynthesisContext where
  hierarchy : Hierarchy
  runtimePath : String

/-- The check of a known validator on an element. -/
def Validator.synthesize (v : Validator) (context : SynthesisContext) (e : Element)
    (argument : Option Argument) : Synthesis :=
  if v.needsArgument && argument.isNone then ⟨none, [.missingArgument v e.label]⟩
  else if v = .assignableTo then
    ⟨none, argument.elim [] (e.assignabilityFindings context.hierarchy)⟩
  else
    let (rule, findings) := v.rule context.runtimePath e.label e.subjectType e.subject argument
    ⟨rule.map (e.contract v), e.applicability v ++ findings⟩

/-- The check of a descriptor on an element, or its tag if no validator has it. -/
def Descriptor.synthesize (d : Descriptor) (context : SynthesisContext) (e : Element) :
    Except String Synthesis :=
  match Validator.ofTag? d.tag with
  | some v => .ok (v.synthesize context e d.argument)
  | none => .error d.tag

end Companion

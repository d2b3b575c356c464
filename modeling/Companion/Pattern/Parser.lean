import Companion.Decimal.Word
import Companion.Pattern.Ast
import Companion.Text.Basic
import Companion.Unicode.Property

/-! Reading regular expressions. -/

set_option autoImplicit false

namespace Companion.Pattern

/-- What is left of a pattern, whether blanks count, the group names taken, and how many groups
capture what they match. -/
structure ParserState where
  rest : List Char
  ignoreBlanks : Bool
  names : List String
  captures : Nat

abbrev Parser := StateT ParserState Option

namespace Parser

def peek : Parser (Option Char) := return (← get).rest.head?

/-- Blanks, and comments to the end of their lines. -/
def dropBlanks (inComment : Bool) : List Char → List Char
  | [] => []
  | c :: rest =>
    if inComment then dropBlanks (c ≠ '\n') rest
    else if c = '#' then dropBlanks true rest
    else if Chars.isBlank c then dropBlanks false rest
    else c :: rest

/-- Pass blanks if they do not count. -/
def blanks : Parser Unit := modify fun s =>
  if s.ignoreBlanks then { s with rest := dropBlanks false s.rest } else s

/-- Take the next character, which there must be. -/
def bump : Parser Unit := do
  match (← get).rest with
  | _ :: rest => modify fun s => { s with rest }
  | [] => failure

def bumpAndBlanks : Parser Unit := do
  bump
  blanks

/-- The next character, which there must be. -/
def char : Parser Char := do
  match ← peek with
  | some c => return c
  | none => failure

/-- Take what is found at the beginning of the text, if something is. -/
def takeIf {α : Type} (find : List Char → Option (α × List Char)) : Parser (Option α) := do
  match find (← get).rest with
  | some (a, rest) =>
    modify fun s => { s with rest }
    return some a
  | none => return none

def strip? (text : String) (cs : List Char) : Option (Unit × List Char) :=
  (text.toList.isPrefixOf? cs).map ((), ·)

/-- Pass a text, if it comes next. -/
def bumpIf (text : String) : Parser Bool := return (← takeIf (strip? text)).isSome

/-- Whether one of the texts comes next. -/
def isNext (texts : List String) : Parser Bool := do
  let rest := (← get).rest
  return texts.any fun text => text.toList.isPrefixOf rest

/-- The next character, after blanks if they do not count. The mark of a comment is passed like a
blank, once, and what the comment says is not. -/
def pastBlanks (ignoreBlanks : Bool) (cs : List Char) : Option Char :=
  if !ignoreBlanks then cs.head?
  else match cs.dropWhile Chars.isBlank with
    | '#' :: cs => (cs.dropWhile Chars.isBlank).head?
    | cs => cs.head?

/-- Take characters of a class, passing blanks after each; at most `fuel` of them. -/
def takeChars (p : Char → Bool) : Nat → Parser (List Char)
  | 0 => return []
  | fuel + 1 => do
    if !(← peek).any p then return []
    let c ← char
    bumpAndBlanks
    return c :: (← takeChars p fuel)

def takeAll (p : Char → Bool) : Parser (List Char) := do
  takeChars p (← get).rest.length

/-! ### Escapes -/

def hexDigit? (c : Char) : Option Nat :=
  if '0' ≤ c ∧ c ≤ '9' then some (c.toNat - 48)
  else if 'a' ≤ c ∧ c ≤ 'f' then some (c.toNat - 87)
  else if 'A' ≤ c ∧ c ≤ 'F' then some (c.toNat - 55)
  else none

def hexValue (digits : List Char) : Nat :=
  digits.foldl (fun n c => 16 * n + (hexDigit? c).getD 0) 0

def charOf (n : Nat) : Parser Char := do
  guard n.isValidChar
  return Char.ofNat n

def hexDigits : Nat → Parser (List Char)
  | 0 => return []
  | count + 1 => do
    let c ← char
    guard (hexDigit? c).isSome
    bumpAndBlanks
    return c :: (← hexDigits count)

/-- A code point in hexadecimal digits, of a fixed number or in braces. -/
def hexLiteral : Parser Literal := do
  let kind ← char
  bumpAndBlanks
  if (← char) = '\x7b' then
    bumpAndBlanks
    let digits ← takeAll (· ≠ '\x7d')
    guard (digits.all fun c => (hexDigit? c).isSome)
    guard ((← char) = '\x7d' && !digits.isEmpty && Word.fitsUnsigned 32 (hexValue digits))
    bumpAndBlanks
    return ⟨← charOf (hexValue digits), false⟩
  let digits ← if kind = 'x' then hexDigits 2 else if kind = 'u' then hexDigits 4 else hexDigits 8
  return ⟨← charOf (hexValue digits), kind = 'x'⟩

/-- What precedes and follows the first occurrence of a separator. -/
def splitAt? (separator : List Char) : List Char → Option (List Char × List Char)
  | [] => none
  | c :: rest =>
    match separator.isPrefixOf? (c :: rest) with
    | some after => some ([], after)
    | none => (splitAt? separator rest).map fun (before, after) => (c :: before, after)

/-- A property in braces, and whether the sign between its name and value negates it. -/
def propertyOf (name : List Char) : PropertyName × Bool :=
  match splitAt? ['!', '='] name, splitAt? [':'] name <|> splitAt? ['='] name with
  | some (property, value), _ => (.value (String.ofList property) (String.ofList value), true)
  | none, some (property, value) => (.value (String.ofList property) (String.ofList value), false)
  | none, none => (.alone (String.ofList name), false)

/-- A property class after its backslash. -/
def property : Parser (PropertyName × Bool) := do
  let negated := (← char) = 'P'
  bumpAndBlanks
  let c ← char
  if c = '\x7b' then
    bumpAndBlanks
    let name ← takeAll (· ≠ '\x7d')
    guard ((← char) = '\x7d')
    bump
    let (name, differs) := propertyOf name
    return (name, negated != differs)
  guard (c ≠ '\\')
  bumpAndBlanks
  return (.alone (String.ofList [c]), negated)

def metaCharacters : List Char := "\\.+*?()|[]\x7b\x7d^$#&-~".toList

/-- Whether a backslash may stand before the character though it means nothing there. -/
def isEscapable (c : Char) : Bool :=
  metaCharacters.contains c || (c.toNat < 128 && !c.isAlphanum && c ≠ '<' && c ≠ '>')

def isBoundaryChar (c : Char) : Bool := c.isAlpha || c == '-'

def boundary? : String → Option Assertion
  | "start" => some .wordStart
  | "end" => some .wordEnd
  | "start-half" => some .wordStartHalf
  | "end-half" => some .wordEndHalf
  | _ => none

/-- Whether a brace opens the name of a word boundary: it may open a repetition. -/
def opensName (ignoreBlanks : Bool) : List Char → Bool
  | '\x7b' :: cs => (if ignoreBlanks then dropBlanks false cs else cs).head?.any isBoundaryChar
  | _ => false

/-- A word boundary by its name in braces. -/
def namedBoundary : Parser Assertion := do
  bumpAndBlanks
  let name ← takeAll isBoundaryChar
  guard ((← char) = '\x7d')
  bump
  boundary? (String.ofList name)

def wordBoundary : Parser Assertion := do
  let s ← get
  if opensName s.ignoreBlanks s.rest then namedBoundary else return .wordBoundary

/-- What a backslash may introduce, and other items of one character. -/
inductive Primitive where
  | literal (literal : Literal)
  | assertion (assertion : Assertion)
  | dot
  | shorthand (name : Shorthand) (negated : Bool)
  | property (name : PropertyName) (negated : Bool)

def plain (c : Char) : Primitive := .literal ⟨c, false⟩

def shorthand? : Char → Option (Shorthand × Bool)
  | 'd' => some (.digit, false)
  | 'D' => some (.digit, true)
  | 's' => some (.space, false)
  | 'S' => some (.space, true)
  | 'w' => some (.word, false)
  | 'W' => some (.word, true)
  | _ => none

/-- Control characters with a letter. -/
def control? : Char → Option Char
  | 'a' => some (Char.ofNat 7)
  | 'f' => some (Char.ofNat 12)
  | 't' => some '\t'
  | 'n' => some '\n'
  | 'r' => some '\r'
  | 'v' => some (Char.ofNat 11)
  | _ => none

def assertion? : Char → Option Assertion
  | 'A' => some .textStart
  | 'z' => some .textEnd
  | 'B' => some .notWordBoundary
  | '<' => some .wordStart
  | '>' => some .wordEnd
  | _ => none

/-- What one character means after a backslash, but for the boundary of a word. -/
def escaped? (c : Char) : Option Primitive :=
  match shorthand? c, control? c with
  | some (name, negated), _ => some (.shorthand name negated)
  | none, some control => some (plain control)
  | none, none => if isEscapable c then some (plain c) else (assertion? c).map .assertion

def escape : Parser Primitive := do
  bump
  let c ← char
  guard !('0' ≤ c && c ≤ '9')
  if c = 'x' || c = 'u' || c = 'U' then return .literal (← hexLiteral)
  if c = 'p' || c = 'P' then
    let named ← property
    return .property named.1 named.2
  bump
  if c = 'b' then return .assertion (← wordBoundary)
  escaped? c

/-! ### Bracketed classes -/

def asciiClass? : String → Option AsciiClass
  | "alnum" => some .alnum
  | "alpha" => some .alpha
  | "ascii" => some .ascii
  | "blank" => some .blank
  | "cntrl" => some .cntrl
  | "digit" => some .digit
  | "graph" => some .graph
  | "lower" => some .lower
  | "print" => some .print
  | "punct" => some .punct
  | "space" => some .space
  | "upper" => some .upper
  | "word" => some .word
  | "xdigit" => some .xdigit
  | _ => none

/-- The name of an ASCII class up to the bracket that closes it, and the text after it. -/
def className? (negated : Bool) (cs : List Char) : Option (ClassExpr × List Char) :=
  match asciiClass? (String.ofList (cs.takeWhile (· ≠ ':'))), cs.dropWhile (· ≠ ':') with
  | some name, ':' :: ']' :: rest => some (.ascii name negated, rest)
  | _, _ => none

/-- A named ASCII class from its bracket on, and the text after it. -/
def namedClass? : List Char → Option (ClassExpr × List Char)
  | '[' :: ':' :: '^' :: rest => className? true rest
  | '[' :: ':' :: rest => className? false rest
  | _ => none

def classItem : Parser Primitive := do
  let c ← char
  if c = '\\' then escape
  else
    bump
    return plain c

def Primitive.asMember? : Primitive → Option ClassExpr
  | .literal l => some (.literal l)
  | .shorthand name negated => some (.shorthand name negated)
  | .property name negated => some (.property name negated)
  | .assertion _ | .dot => none

def Primitive.asLiteral? : Primitive → Option Literal
  | .literal l => some l
  | _ => none

/-- Whether a dash comes next that makes a range, which one before a closing bracket or before
another dash does not. There must be something next. -/
def isRange : Parser Bool := do
  let next ← char
  let s ← get
  let after := pastBlanks s.ignoreBlanks s.rest.tail
  return next = '-' && after ≠ some ']' && after ≠ some '-'

/-- A member of a class, or a range between two. -/
def classRange : Parser ClassExpr := do
  let first ← classItem
  blanks
  if ← isRange then
    bumpAndBlanks
    let last ← classItem
    let first ← first.asLiteral?
    let last ← last.asLiteral?
    guard (first.char ≤ last.char)
    return .range first last
  else first.asMember?

/-- The operator at the beginning of a text, and the text after it. -/
def setOperator? : List Char → Option (SetOperator × List Char)
  | '&' :: '&' :: rest => some (.intersection, rest)
  | '-' :: '-' :: rest => some (.difference, rest)
  | '~' :: '~' :: rest => some (.symmetricDifference, rest)
  | _ => none

/-- A set to the left of an operator. -/
abbrev Pending := Option (ClassExpr × SetOperator)

/-- The operation that a right operand completes. -/
def close (pending : Pending) (members : List ClassExpr) : ClassExpr :=
  let right := ClassExpr.ofMembers members.reverse
  match pending with
  | some (left, operator) => .operation operator left right
  | none => right

/-- Whether a class is negated; there must be something after its bracket. -/
def negation : Parser Bool := do
  if (← char) ≠ '^' then return false
  bumpAndBlanks
  return true

/-- The opening of a class: its negation, and a bracket and dashes that stand for themselves. -/
def openClass : Parser (Bool × List ClassExpr) := do
  bumpAndBlanks
  let negated ← negation
  let dashes ← takeAll (· = '-')
  let literals := dashes.map fun c => ClassExpr.literal ⟨c, false⟩
  let c ← char
  if dashes.isEmpty && c = ']' then
    bumpAndBlanks
    let _ ← char
    return (negated, [.literal ⟨']', false⟩])
  return (negated, literals)

/-- A class within a class. -/
def innerClass (inner : List ClassExpr → Parser ClassExpr) : Parser ClassExpr := do
  let opening ← openClass
  return .bracketed (← inner opening.2) opening.1

/-- A member of a class, which may be a class. -/
def classMember (inner : List ClassExpr → Parser ClassExpr) : Parser ClassExpr := do
  if (← char) ≠ '[' then classRange
  else (← takeIf namedClass?).getDM (innerClass inner)

/-- What follows an operator, or a member and what follows it. -/
def classRest (follow : Pending → List ClassExpr → Parser ClassExpr) (pending : Pending)
    (members : List ClassExpr) : Option SetOperator → Parser ClassExpr
  | some operator => follow (some (close pending members, operator)) []
  | none => do follow pending ((← classMember (follow none)) :: members)

/-- The end of a class, or an operator or a member and what follows. -/
def classStep (follow : Pending → List ClassExpr → Parser ClassExpr) (pending : Pending)
    (members : List ClassExpr) : Parser ClassExpr := do
  if (← char) = ']' then
    bump
    return close pending members
  else classRest follow pending members (← takeIf setOperator?)

/-- The members of a class up to its closing bracket, over at most `fuel` of them. -/
def classMembers : Nat → Pending → List ClassExpr → Parser ClassExpr
  | 0, _, _ => failure
  | fuel + 1, pending, members => do
    blanks
    classStep (classMembers fuel) pending members

def classBody (members : List ClassExpr) : Parser ClassExpr := do
  classMembers ((← get).rest.length + 1) none members

def bracketedClass : Parser Ast := do
  let opening ← openClass
  return .bracketed (← classBody opening.2) opening.1

/-! ### Groups and flags -/

def flag? : Char → Option Flag
  | 'i' => some .caseInsensitive
  | 'm' => some .multiLine
  | 's' => some .dotAll
  | 'U' => some .swapGreed
  | 'u' => some .unicode
  | 'R' => some .crlf
  | 'x' => some .ignoreBlanks
  | _ => none

/-- Flags up to a colon or parenthesis. After a minus sign, of which there is at most one, a flag
is cleared, and one must follow it. -/
def flagItems (negated dangling : Bool) (seen : Flags) : Nat → Parser Flags
  | 0 => failure
  | fuel + 1 => do
    let c ← char
    if c = ':' || c = ')' then
      guard !dangling
      return seen.reverse
    bump
    if c = '-' then
      guard !negated
      flagItems true true seen fuel
    else
      let flag ← flag? c
      guard (seen.all (·.1 ≠ flag))
      flagItems negated false ((flag, !negated) :: seen) fuel

def isNameChar (first : Bool) (c : Char) : Bool :=
  c == '_' || if first then Unicode.Property.isAlphabetic c
    else c == '.' || c == '[' || c == ']' || Unicode.Property.isAlphanumeric c

def groupFlags : Parser Flags := do
  flagItems false false [] ((← get).rest.length + 1)

/-- The name of a group up to the sign that ends it, and the text after that. -/
def groupName? (cs : List Char) : Option (String × List Char) :=
  match cs.takeWhile (· ≠ '>'), cs.dropWhile (· ≠ '>') with
  | first :: others, _ :: rest =>
    if isNameChar true first && others.all (isNameChar false) then
      some (String.ofList (first :: others), rest)
    else none
  | _, _ => none

/-- Take a name for a group, which no other group has. -/
def claim (name : String) : Parser Unit := do
  guard !(← get).names.contains name
  modify fun s => { s with names := name :: s.names }

def groupName : Parser Unit := do
  claim (← (← takeIf groupName?))

/-- The opening of a group, or flags that hold from here on. -/
inductive GroupStart where
  | flags (flags : Flags)
  | group (flags : Flags)
  | capture (index : Nat)

/-- Groups that capture are numbered from one in the order of their openings. -/
def captureStart : Parser GroupStart := modifyGet fun s =>
  (.capture (s.captures + 1), { s with captures := s.captures + 1 })

/-- Pass the signs before the name of a group, of which there are two kinds. -/
def namePrefix : Parser Bool := do
  if ← bumpIf "?P<" then return true
  bumpIf "?<"

/-- The opening of a group; it does not look ahead or back. -/
def groupStart : Parser GroupStart := do
  bump
  blanks
  guard !(← isNext ["?=", "?!", "?<=", "?<!"])
  if ← namePrefix then
    groupName
    return ← captureStart
  if !(← bumpIf "?") then return ← captureStart
  let flags ← groupFlags
  let close ← char
  bump
  if close ≠ ')' then return .group flags
  guard !flags.isEmpty
  return .flags flags

/-! ### Repetitions -/

/-- Pass blanks, which do not count in a repetition. -/
def passSpaces : Parser Unit := modify fun s => { s with rest := s.rest.dropWhile Chars.isBlank }

/-- A number below 2 ^ 32 with blanks around it. -/
def decimal : Parser Nat := do
  passSpaces
  let digits ← takeAll Char.isDigit
  passSpaces
  guard !digits.isEmpty
  let n := digits.foldl (fun n c => 10 * n + (c.toNat - 48)) 0
  guard (Word.fitsUnsigned 32 n)
  return n

/-- Whether as many repetitions as possible are preferred: a question mark says that they are
not. -/
def preference : Parser Bool := return !(← bumpIf "?")

/-- How often something is repeated, and which way is preferred. -/
structure Counts where
  least : Nat
  most : Option Nat
  greedy : Bool

/-- The greatest count: the least one, unless a comma comes first. -/
def greatest (least : Nat) : Parser (Option Nat) := do
  if (← char) ≠ ',' then return some least
  bumpAndBlanks
  if (← char) = '\x7d' then return none
  return some (← decimal)

/-- Counts in braces. -/
def counts : Parser Counts := do
  bumpAndBlanks
  let least ← decimal
  let most ← greatest least
  guard ((← char) = '\x7d')
  bumpAndBlanks
  let greedy ← preference
  guard (most.all (least ≤ ·))
  return ⟨least, most, greedy⟩

/-- Counts of a sign of one character. -/
def signCounts (least : Nat) (most : Option Nat) : Parser Counts := do
  bump
  return ⟨least, most, ← preference⟩

/-- Repeat the last part of a sequence. -/
def repeatLast? (counts : Counts) : List Ast → Option (List Ast)
  | [] => none
  | .empty :: _ => none
  | .flags _ :: _ => none
  | e :: others => some (.repetition counts.least counts.most counts.greedy e :: others)

/-! ### Patterns -/

def Primitive.toAst : Primitive → Ast
  | .literal l => .literal l
  | .assertion a => .assertion a
  | .dot => .dot
  | .shorthand name negated => .shorthand name negated
  | .property name negated => .property name negated

/-- What a character means by itself. -/
def unescaped : Char → Ast
  | '.' => .dot
  | '^' => .assertion .lineStart
  | '$' => .assertion .lineEnd
  | c => .literal ⟨c, false⟩

def primitive : Parser Ast := do
  let c ← char
  if c = '\\' then return (← escape).toAst
  bump
  return unescaped c

/-- The setting of a flag, if flags change it. -/
def lookupFlag (flag : Flag) (flags : Flags) : Option Bool := flags.lookup flag

def setBlanks (flags : Flags) : Parser Unit := modify fun s =>
  { s with ignoreBlanks := (lookupFlag .ignoreBlanks flags).getD s.ignoreBlanks }

def ignoresBlanks : Parser Bool := return (← get).ignoreBlanks

/-- What stands in a group, up to its closing parenthesis. Flags hold in the group alone. -/
def enclosed (flags : Flags) (inner : Parser Ast) : Parser Ast := do
  let outer ← ignoresBlanks
  setBlanks flags
  let ast ← inner
  guard ((← char) = ')')
  bump
  modify fun s => { s with ignoreBlanks := outer }
  return ast

/-- A group after the parts before it, or flags for what follows. -/
def group (inner : Parser Ast) (parts : List Ast) : GroupStart → Parser (List Ast)
  | .flags flags => do
    setBlanks flags
    return .flags flags :: parts
  | .group flags => do return .group flags (← enclosed flags inner) :: parts
  | .capture index => do return .capture index (← enclosed [] inner) :: parts

/-- What a character begins: a part of a sequence after its other parts, or what repeats their last
one. -/
def part (inner : Parser Ast) (parts : List Ast) : Char → Parser (List Ast)
  | '(' => do group inner parts (← groupStart)
  | '[' => do return (← bracketedClass) :: parts
  | '?' => do repeatLast? (← signCounts 0 (some 1)) parts
  | '*' => do repeatLast? (← signCounts 0 none) parts
  | '+' => do repeatLast? (← signCounts 1 none) parts
  | '\x7b' => do repeatLast? (← counts) parts
  | _ => do return (← primitive) :: parts

/-- Whether a group or the text ends here. -/
def isClosed : Parser Bool := return (← peek).all (· = ')')

/-- Alternatives up to the end of a group. Branches and the parts of the last one are in reverse;
each step takes a character. -/
def alternatives : Nat → List Ast → List Ast → Parser Ast
  | 0, _, _ => failure
  | fuel + 1, branches, parts => do
    blanks
    if ← isClosed then
      return .ofBranches (Ast.ofParts parts.reverse :: branches).reverse
    if ← bumpIf "|" then alternatives fuel (Ast.ofParts parts.reverse :: branches) []
    else alternatives fuel branches (← part (alternatives fuel [] []) parts (← char))

end Parser

/-- A pattern as it is written. -/
def Ast.read? (pattern : String) : Option Ast :=
  let cs := pattern.toList
  match (Parser.alternatives (cs.length + 1) [] []).run ⟨cs, false, [], 0⟩ with
  | some (ast, s) => if s.rest.isEmpty then some ast else none
  | none => none

/-- Patterns that nest more deeply are refused. -/
def nestLimit : Nat := 250

def Ast.parse? (pattern : String) : Option Ast := (read? pattern).filter (·.depth ≤ nestLimit)

end Companion.Pattern

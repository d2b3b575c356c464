import Companion.Code.Lexer

/-! Reading token trees from left to right.

A reader either fails or gives a result and the trees it left. Looking ahead is a test on the
trees, so that a test never reads anything.
-/

set_option autoImplicit false

namespace Companion.Code

/-- A reader of token trees; there is one way to fail, and it gives no reason. -/
abbrev Reader := StateT (List Tree) Option

/-! ### Looking ahead -/

namespace Tree

/-- Words that are no identifiers unless they are written raw. -/
def reserved : List String :=
  ["_", "abstract", "as", "async", "await", "become", "box", "break", "const", "continue",
    "crate", "do", "dyn", "else", "enum", "extern", "false", "final", "fn", "for", "if", "impl",
    "in", "let", "loop", "macro", "match", "mod", "move", "mut", "override", "priv", "pub",
    "ref", "return", "Self", "self", "static", "struct", "super", "trait", "true", "try", "type",
    "typeof", "unsafe", "unsized", "use", "virtual", "where", "while", "yield"]

/-- The marks of an operator, each but the last joined to the next. -/
def atMarks : List Char → List Tree → Bool
  | [], _ => true
  | [c], .punct mark _ :: _ => mark == c
  | c :: d :: marks, .punct mark joint :: rest => mark == c && joint && atMarks (d :: marks) rest
  | _, _ => false

/-- Whether the operator, or a longer one that begins with it, comes next. -/
def atOperator (operator : String) (ts : List Tree) : Bool := atMarks operator.toList ts

def atWord (word : String) : List Tree → Bool
  | .ident name :: _ => name == word
  | _ => false

def atAnyWord : List Tree → Bool
  | .ident _ :: _ => true
  | _ => false

/-- An identifier that is no reserved word. -/
def atIdent : List Tree → Bool
  | .ident name :: _ => !reserved.contains name
  | _ => false

def atGroup (delimiter : Delimiter) : List Tree → Bool
  | .group d _ :: _ => d == delimiter
  | _ => false

def atLifetime : List Tree → Bool
  | .punct '\'' true :: .ident _ :: _ => true
  | _ => false

/-- A literal, with a minus sign if it is a number. -/
def atLiteral : List Tree → Bool
  | .literal _ :: _ => true
  | .ident name :: _ => name == "true" || name == "false"
  | .punct '-' _ :: .literal text :: _ => text.toList.head?.any fun c => '0' ≤ c && c ≤ '9'
  | _ => false

/-- The trees after the next one; a lifetime counts as one. -/
def skip : List Tree → List Tree
  | .punct '\'' true :: .ident _ :: rest => rest
  | _ :: rest => rest
  | [] => []

def atPath (ts : List Tree) : Bool :=
  atIdent ts || atWord "self" ts || atWord "super" ts || atWord "crate" ts || atOperator "::" ts

end Tree

/-! ### Reading -/

namespace Reader

variable {α σ : Type}

def rest : Reader (List Tree) := get

/-- The result of a test on what comes next. -/
def peek (test : List Tree → Bool) : Reader Bool := test <$> get

/-- Fail unless the test holds of what comes next. -/
def expect (test : List Tree → Bool) : Reader Unit := do
  guard (test (← get))

def atEnd : Reader Bool := List.isEmpty <$> get

/-- Read trees that a test has found. -/
def drop (count : Nat) : Reader Unit := modify (List.drop count)

def operator (text : String) : Reader Unit := do
  expect (Tree.atOperator text)
  drop text.length

def word (text : String) : Reader Unit := do
  expect (Tree.atWord text)
  drop 1

/-- Read the operator if it comes next, and tell whether it did. -/
def operator? (text : String) : Reader Bool := do
  let found ← peek (Tree.atOperator text)
  if found then drop text.length
  return found

def word? (text : String) : Reader Bool := do
  let found ← peek (Tree.atWord text)
  if found then drop 1
  return found

/-- An identifier that is no reserved word. -/
def ident : Reader String := do
  match ← get with
  | .ident name :: rest => if Tree.reserved.contains name then failure else set rest; return name
  | _ => failure

def anyWord : Reader String := do
  match ← get with
  | .ident name :: rest => set rest; return name
  | _ => failure

def lifetime : Reader String := do
  match ← get with
  | .punct '\'' true :: .ident name :: rest => set rest; return name
  | _ => failure

def lifetime? : Reader (Option String) := do
  if ← peek Tree.atLifetime then some <$> lifetime else return none

/-- A literal; a sign becomes part of its text. -/
def literal : Reader String := do
  expect Tree.atLiteral
  match ← get with
  | .literal text :: rest => set rest; return text
  | .ident name :: rest => set rest; return name
  | .punct _ _ :: .literal text :: rest => set rest; return "-" ++ text
  | _ => failure

/-- A literal between double quotes. -/
def quotedText : Reader Unit := do
  match ← get with
  | .literal text :: rest =>
    guard (text.toList.head?.any fun c => c == '"' || c == 'r')
    set rest
  | _ => failure

/-- Read a group whose body the reader takes whole. -/
def within (delimiter : Delimiter) (body : Reader α) : Reader α := do
  match ← get with
  | .group d trees :: rest =>
    guard (d = delimiter)
    let (result, left) ← StateT.lift (body.run trees)
    guard left.isEmpty
    set rest
    return result
  | _ => failure

/-- Any group; tells its delimiter. -/
def anyGroup : Reader Delimiter := do
  match ← get with
  | .group d _ :: rest => set rest; return d
  | _ => failure

/-- Whether the last tree read, of those that came next before, is a group in braces. -/
def endedInBrace (before : List Tree) : Reader Bool := do
  let read := before.take (before.length - (← get).length)
  return read.getLast?.any fun tree => Tree.atGroup .brace [tree]

/-- Take the rest as it is. -/
def anything : Reader Unit := set ([] : List Tree)

/-- Repeat a step while it says so, at most `fuel` times. -/
def loopWithin (step : σ → Reader (Bool × σ)) : Nat → σ → Reader σ
  | 0, _ => failure
  | fuel + 1, state => do
    let (more, state) ← step state
    if more then loopWithin step fuel state else return state

/-- Repeat a step while it says so. A step that goes on reads a tree, so the trees left bound
the number of steps. -/
def loop (step : σ → Reader (Bool × σ)) (state : σ) : Reader σ := do
  loopWithin step ((← get).length + 1) state

/-- Repeat a step while it says so, without a state. -/
def repeatWhile (step : Reader Bool) : Reader Unit :=
  loop (fun _ => do return (← step, ())) ()

/-- Repeat a reader to the end. -/
def toEnd (item : Reader Unit) : Reader Unit := repeatWhile do
  if ← atEnd then return false
  item
  return true

/-- Items up to the end with a separator after each but perhaps the last. -/
def separated (separator : String) (item : Reader α) : Reader (List α) := do
  let items ← loop (fun items => do
    if ← atEnd then return (false, items)
    let items := (← item) :: items
    if ← atEnd then return (false, items)
    operator separator
    return (true, items)) []
  return items.reverse

/-- Run a reader on all of the trees. -/
def all? (reader : Reader α) (trees : List Tree) : Option α :=
  match reader.run trees with
  | some (result, []) => some result
  | _ => none

end Reader

end Companion.Code

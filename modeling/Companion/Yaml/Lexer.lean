import Companion.Yaml.Lexer.Block
import Companion.Yaml.Lexer.Tag
import Companion.Yaml.Lexer.Cursor

/-! The tokens of a YAML text.

Keys are recognised by the colon behind them: wherever a key may start, its place is noted, and the
token that makes it one is put there when the colon comes. Indentation opens and closes collections
in block style.
-/

set_option autoImplicit false

namespace Companion.Yaml

/-- A place where a key may have started. -/
structure KeyPlace where
  /-- Whether nothing but a key can stand there. -/
  required : Bool
  /-- Number of the token that would be the key. -/
  token : Nat
  line : Nat
  index : Nat
  column : Nat
  deriving Inhabited

structure Lexer where
  cursor : Cursor
  tokens : Array Token
  /-- The indentation of the innermost block, or -1 outside of all. -/
  indent : Int
  /-- The indentations around it. -/
  indents : List Int
  /-- Whether a key may start here. -/
  keyAllowed : Bool
  /-- A possible key at each level of flow style, the innermost first, and one outside of all. -/
  keys : List (Option KeyPlace)
  deriving Inhabited

namespace Lexer

def start (cs : List Char) : Lexer := ⟨.ofChars cs, #[], -1, [], true, [none]⟩

def inFlow (l : Lexer) : Bool := 1 < l.keys.length

def push (l : Lexer) (t : Token) : Lexer := { l with tokens := l.tokens.push t }

/-- Put a token before the one of a number. -/
def insert (l : Lexer) (number : Nat) (t : Token) : Lexer :=
  { l with tokens := l.tokens.insertIdxIfInBounds number t }

def moveTo (l : Lexer) (c : Cursor) : Lexer := { l with cursor := c }

/-- Take a token of some characters. -/
def take (l : Lexer) (count : Nat) (t : Token) : Lexer :=
  (l.moveTo (l.cursor.skipN count)).push t

/-- Close blocks that are indented by more than a column. -/
def unroll (column : Int) : List Int → Lexer → Lexer
  | [], l => l
  | outer :: indents, l =>
    if column < l.indent then
      unroll column indents { l.push .blockEnd with indent := outer, indents }
    else l

def closeBlocks (l : Lexer) (column : Int) : Lexer :=
  if l.inFlow then l else unroll column l.indents l

/-- Open a block at a column, unless there is one; its token goes to a place before others. -/
def openBlock (l : Lexer) (column : Nat) (number : Nat) (t : Token) : Lexer :=
  if l.inFlow || (column : Int) ≤ l.indent then l
  else { l.insert number t with indent := column, indents := l.indent :: l.indents }

/-- Open a block at the current place. -/
def openBlockHere (l : Lexer) (t : Token) : Lexer :=
  l.openBlock l.cursor.column l.tokens.size t

/-! ### Possible keys -/

/-- A key ends on its line and within 1024 characters. -/
def isStale (c : Cursor) (key : KeyPlace) : Bool := key.line < c.line || key.index + 1024 < c.index

/-- Give up keys that have become too long. -/
def dropStale (l : Lexer) : Option Lexer := do
  let stale (key : Option KeyPlace) : Bool := key.any (isStale l.cursor)
  guard (!l.keys.any fun key => stale key && key.any (·.required))
  return { l with keys := l.keys.map fun key => if stale key then none else key }

/-- Give up the key of the current level. -/
def dropKey (l : Lexer) : Option Lexer :=
  match l.keys with
  | some key :: outer => if key.required then none else some { l with keys := none :: outer }
  | _ => some l

/-- Note that a key may start here. -/
def noteKey (l : Lexer) : Option Lexer :=
  if l.keyAllowed then do
    let l ← l.dropKey
    let c := l.cursor
    let key : KeyPlace :=
      ⟨!l.inFlow && l.indent == c.column, l.tokens.size, c.line, c.index, c.column⟩
    return { l with keys := some key :: l.keys.tail }
  else some l

/-! ### Tokens -/

/-- Skip blanks, comments and line breaks, after which a key may start in block style. Tabs may
not stand where a key may start. A byte order mark may start a line, of which it is a column. -/
def skipSpace : Nat → Lexer → Lexer
  | 0, l => l
  | fuel + 1, l =>
    let tabs := l.inFlow || !l.keyAllowed
    let c := if l.cursor.column = 0 && l.cursor.isAt '\ufeff' then l.cursor.skip else l.cursor
    let c := c.skipWhile fun x => x == ' ' || (tabs && x == '\t')
    let c := if c.isAt '#' then c.skipToLineEnd else c
    if c.atBreak then
      skipSpace fuel { l.moveTo c.skipBreak with keyAllowed := l.keyAllowed || !l.inFlow }
    else l.moveTo c

/-- The end of all blocks and keys. -/
def closeAll (l : Lexer) : Option Lexer := do
  let l ← (l.closeBlocks (-1)).dropKey
  return { l with keyAllowed := false }

def streamEnd (l : Lexer) : Option Lexer := return (← l.closeAll).push .streamEnd

def directive (l : Lexer) : Option Lexer := do
  let l ← l.closeAll
  let (content, c) ← Directive.read l.cursor
  let t := match content with
    | .version major minor => .version major minor
    | .tag handle expansion => .tagDirective handle expansion
  return (l.moveTo c).push t

def documentMark (l : Lexer) (t : Token) : Option Lexer := return (← l.closeAll).take 3 t

def flowStart (l : Lexer) (t : Token) : Option Lexer := do
  let l ← l.noteKey
  return { l with keys := none :: l.keys, keyAllowed := true }.take 1 t

def flowEnd (l : Lexer) (t : Token) : Option Lexer := do
  let l ← l.dropKey
  let keys := if l.inFlow then l.keys.tail else l.keys
  return { l with keys, keyAllowed := false }.take 1 t

def flowEntry (l : Lexer) : Option Lexer := do
  let l ← l.dropKey
  return { l with keyAllowed := true }.take 1 .flowEntry

def blockEntry (l : Lexer) : Option Lexer := do
  guard (l.inFlow || l.keyAllowed)
  let l ← (l.openBlockHere .blockSequenceStart).dropKey
  return { l with keyAllowed := true }.take 1 .blockEntry

def key (l : Lexer) : Option Lexer := do
  guard (l.inFlow || l.keyAllowed)
  let l ← (l.openBlockHere .blockMappingStart).dropKey
  return { l with keyAllowed := !l.inFlow }.take 1 .key

/-- The colon makes a key of what may be one, or follows a key with a mark of its own. -/
def value (l : Lexer) : Option Lexer := do
  match l.keys with
  | some key :: outer =>
    let l := (l.insert key.token .key).openBlock key.column key.token .blockMappingStart
    return { l with keys := none :: outer, keyAllowed := false }.take 1 .value
  | _ =>
    guard (l.inFlow || l.keyAllowed)
    let l := l.openBlockHere .blockMappingStart
    return { l with keyAllowed := !l.inFlow }.take 1 .value

/-- A token in whose place a key may start, and after which none may. -/
def node (l : Lexer) (read : Lexer → Option (Token × Cursor)) : Option Lexer := do
  let l ← l.noteKey
  let (t, c) ← read l
  return { (l.moveTo c).push t with keyAllowed := false }

def anchor (l : Lexer) (token : String → Token) : Option Lexer :=
  l.node fun l => do
    let (name, c) ← Anchor.read l.cursor
    return (token name, c)

def tag (l : Lexer) : Option Lexer :=
  l.node fun l => do
    let (handle, suffix, c) ← Tag.read l.inFlow l.cursor
    return (.tag handle suffix, c)

def quoted (l : Lexer) (single : Bool) : Option Lexer :=
  l.node fun l => do
    let c := l.cursor.skip
    let (text, c) ← Quoted.read single (c.rest.length + 1) [] c
    return (.scalar (if single then .singleQuoted else .doubleQuoted) (String.ofList text), c)

def block (l : Lexer) (folded : Bool) : Option Lexer := do
  let l ← l.dropKey
  let (text, c) ← Block.read folded l.indent l.cursor.skip
  let t := Token.scalar (if folded then .folded else .literal) (String.ofList text)
  return { (l.moveTo c).push t with keyAllowed := true }

/-- After a line break behind it, a key may start again. -/
def plain (l : Lexer) : Option Lexer := do
  let l ← l.noteKey
  let c := l.cursor
  let (text, broken, c) ← Plain.read l.inFlow l.indent (c.rest.length + 1) [] .empty c
  let t := Token.scalar .plain (String.ofList text)
  return { (l.moveTo c).push t with keyAllowed := broken }

def isMark (c : Char) : Bool := "-?:,[]\x7b\x7d#&*!|>'\"%@`".toList.contains c

/-- Whether a plain scalar may start here. -/
def startsPlain (l : Lexer) (x : Char) : Bool :=
  !(isMark x || isBlank x || isBreak x) ||
    (x == '-' && !(l.cursor.ahead? 1).any isBlank) ||
    (!l.inFlow && (x == '?' || x == ':') && !l.cursor.isSeparated 1)

/-- Take the token that starts with a character. -/
def tokenAt (l : Lexer) (x : Char) : Option Lexer :=
  let c := l.cursor
  if c.column = 0 && x = '%' then l.directive
  else if c.atDocumentMark '-' then l.documentMark .documentStart
  else if c.atDocumentMark '.' then l.documentMark .documentEnd
  else if x = '[' then l.flowStart .flowSequenceStart
  else if x = '\x7b' then l.flowStart .flowMappingStart
  else if x = ']' then l.flowEnd .flowSequenceEnd
  else if x = '\x7d' then l.flowEnd .flowMappingEnd
  else if x = ',' then l.flowEntry
  else if x = '-' && c.isSeparated 1 then l.blockEntry
  else if x = '?' && (l.inFlow || c.isSeparated 1) then l.key
  else if x = ':' && (l.inFlow || c.isSeparated 1) then l.value
  else if x = '*' then l.anchor .aliasOf
  else if x = '&' then l.anchor .anchor
  else if x = '!' then l.tag
  else if x = '|' && !l.inFlow then l.block false
  else if x = '>' && !l.inFlow then l.block true
  else if x = '\'' then l.quoted true
  else if x = '"' then l.quoted false
  else if l.startsPlain x then l.plain
  else none

/-- Take tokens to the end of the text; each takes a character. -/
def run : Nat → Lexer → Option (Array Token)
  | 0, _ => none
  | fuel + 1, l => do
    let l ← (skipSpace (l.cursor.rest.length + 1) l).dropStale
    let l := l.closeBlocks l.cursor.column
    match l.cursor.head? with
    | none => return (← l.streamEnd).tokens
    | some x => run fuel (← l.tokenAt x)

end Lexer

/-- Characters that a text may hold. -/
def isAllowed (c : Char) : Bool :=
  let n := c.toNat
  n == 9 || n == 10 || n == 13 || (0x20 ≤ n && n ≤ 0x7E) || n == 0x85 ||
    (0xA0 ≤ n && n ≤ 0xFFFD) || 0x10000 ≤ n

def tokens? (text : String) : Option (Array Token) := do
  let cs := text.toList
  guard (cs.all isAllowed)
  Lexer.run (cs.length + 2) (.start cs)

end Companion.Yaml

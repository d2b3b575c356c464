import Companion.Text.Basic
import Companion.Unicode.Identifier

/-! From characters to tokens, by the lexical rules of Rust.

Every scanner returns the characters it took and the rest. Comments separate tokens, except
that a documentation comment stands for the attribute it abbreviates.
-/

set_option autoImplicit false

namespace Companion.Code

/-! ### Tokens and the trees that brackets make of them -/

inductive Delimiter where
  | parenthesis
  | bracket
  | brace
  deriving DecidableEq, Repr, Inhabited

/-- A token without its place. Each character of an operator is a token of its own; `joint`
says that the next character belongs to an operator too. -/
inductive Token where
  | ident (name : String)
  | punct (mark : Char) (joint : Bool)
  | literal (text : String)
  | opening (delimiter : Delimiter)
  | closing (delimiter : Delimiter)
  deriving DecidableEq, Repr, Inhabited

/-- A token that is no bracket, or a bracketed group. -/
inductive Tree where
  | ident (name : String)
  | punct (mark : Char) (joint : Bool)
  | literal (text : String)
  | group (delimiter : Delimiter) (body : List Tree)
  deriving Repr, Inhabited

namespace Tree

/-- Close groups from the inside out. `stack` holds the open groups with what precedes each,
`seen` the trees of the innermost one; both are reversed. -/
def closeGroups (stack : List (Delimiter × List Tree)) (seen : List Tree) :
    List Token → Option (List Tree)
  | [] => if stack.isEmpty then some seen.reverse else none
  | .ident name :: rest => closeGroups stack (.ident name :: seen) rest
  | .punct mark joint :: rest => closeGroups stack (.punct mark joint :: seen) rest
  | .literal text :: rest => closeGroups stack (.literal text :: seen) rest
  | .opening d :: rest => closeGroups ((d, seen) :: stack) [] rest
  | .closing d :: rest =>
    match stack with
    | (opened, outer) :: stack =>
      if opened = d then closeGroups stack (.group d seen.reverse :: outer) rest else none
    | [] => none

/-- The trees of a token sequence, unless its brackets do not match. -/
def ofTokens (tokens : List Token) : Option (List Tree) := closeGroups [] [] tokens

end Tree

/-! ### Scanners -/

open Unicode (isIdentifierStart isIdentifierContinue)

/-- What a scanner took, and what is left. -/
abbrev Scanned := List Char × List Char

namespace Scanned

def cons (c : Char) (s : Scanned) : Scanned := (c :: s.1, s.2)

def prepend (cs : List Char) (s : Scanned) : Scanned := (cs ++ s.1, s.2)

end Scanned

namespace Lexer

def isDecimal (c : Char) : Bool := '0' ≤ c && c ≤ '9'

def hexValue? (c : Char) : Option Nat :=
  if '0' ≤ c ∧ c ≤ '9' then some (c.toNat - 48)
  else if 'a' ≤ c ∧ c ≤ 'f' then some (c.toNat - 87)
  else if 'A' ≤ c ∧ c ≤ 'F' then some (c.toNat - 55)
  else none

/-- Blanks of source text; the two direction marks count too. -/
def isSpace (c : Char) : Bool :=
  Chars.isBlank c || c == Char.ofNat 0x200E || c == Char.ofNat 0x200F

/-! ### Comments -/

/-- Up to the end of the line; the line feed stays, a return before it goes. -/
def toLineEnd : List Char → Scanned
  | [] => ([], [])
  | '\n' :: rest => ([], '\n' :: rest)
  | '\r' :: '\n' :: rest => ([], '\n' :: rest)
  | c :: rest => (toLineEnd rest).cons c

/-- A nested comment that is open `depth` times. -/
def blockComment (depth : Nat) : List Char → Option Scanned
  | [] => none
  | '/' :: '*' :: rest => (blockComment (depth + 1) rest).map (Scanned.prepend ['/', '*'])
  | '*' :: '/' :: rest =>
    if depth ≤ 1 then some (['*', '/'], rest)
    else (blockComment (depth - 1) rest).map (Scanned.prepend ['*', '/'])
  | c :: rest => (blockComment depth rest).map (Scanned.cons c)

/-- The rest after a comment that documents nothing. -/
def plainComment? : List Char → Option (List Char)
  | '/' :: '/' :: '/' :: '/' :: rest => some (toLineEnd rest).2
  | '/' :: '/' :: '/' :: _ => none
  | '/' :: '/' :: '!' :: _ => none
  | '/' :: '/' :: rest => some (toLineEnd rest).2
  | '/' :: '*' :: '*' :: '/' :: rest => some rest
  | '/' :: '*' :: '*' :: '*' :: rest =>
    (blockComment 0 ('/' :: '*' :: '*' :: '*' :: rest)).map Prod.snd
  | '/' :: '*' :: '*' :: _ => none
  | '/' :: '*' :: '!' :: _ => none
  | '/' :: '*' :: rest => (blockComment 0 ('/' :: '*' :: rest)).map Prod.snd
  | _ => none

/-- The rest after blanks and comments, of which there are at most `fuel`. -/
def afterSpaceWithin : Nat → List Char → List Char
  | 0, cs => cs
  | _, [] => []
  | fuel + 1, c :: rest =>
    if isSpace c then afterSpaceWithin fuel rest
    else
      match plainComment? (c :: rest) with
      | some rest => afterSpaceWithin fuel rest
      | none => c :: rest

def afterSpace (cs : List Char) : List Char := afterSpaceWithin cs.length cs

/-- No return stands alone. -/
def returnsPaired : List Char → Bool
  | [] => true
  | '\r' :: '\n' :: rest => returnsPaired rest
  | '\r' :: _ => false
  | _ :: rest => returnsPaired rest

/-- A comment that documents what follows it, or what holds it (`inner`). -/
structure DocComment where
  inner : Bool
  text : List Char
  rest : List Char

def ofBlock (inner : Bool) (cs : List Char) : Option DocComment :=
  (blockComment 0 cs).map fun (taken, rest) => ⟨inner, (taken.drop 3).dropLast.dropLast, rest⟩

def ofLine (inner : Bool) (cs : List Char) : Option DocComment :=
  some ⟨inner, (toLineEnd cs).1, (toLineEnd cs).2⟩

def docComment? (cs : List Char) : Option DocComment :=
  let comment := match cs with
    | '/' :: '/' :: '!' :: rest => ofLine true rest
    | '/' :: '*' :: '!' :: _ => ofBlock true cs
    | '/' :: '/' :: '/' :: '/' :: _ => none
    | '/' :: '/' :: '/' :: rest => ofLine false rest
    | '/' :: '*' :: '*' :: '*' :: _ => none
    | '/' :: '*' :: '*' :: _ => ofBlock false cs
    | _ => none
  comment.filter fun comment => returnsPaired comment.text

/-- The attribute that a documentation comment abbreviates. -/
def DocComment.tokens (comment : DocComment) : List Token :=
  [.punct '#' false] ++ (if comment.inner then [.punct '!' false] else []) ++
    [.opening .bracket, .ident "doc", .punct '=' false,
      .literal (String.ofList ('"' :: comment.text ++ ['"'])), .closing .bracket]

/-! ### Identifiers -/

/-- An identifier without a raw mark. -/
def word? : List Char → Option Scanned
  | [] => none
  | c :: rest =>
    if isIdentifierStart c then
      some (c :: rest.takeWhile isIdentifierContinue, rest.dropWhile isIdentifierContinue)
    else none

/-- Names that have no raw form. -/
def neverRaw : List (List Char) :=
  ["_", "super", "self", "Self", "crate"].map String.toList

/-- An identifier with or without a raw mark. -/
def anyIdent? : List Char → Option Scanned
  | 'r' :: '#' :: rest =>
    match word? rest with
    | some (name, rest) =>
      if neverRaw.contains name then none else some ('r' :: '#' :: name, rest)
    | none => none
  | cs => word? cs

/-- Openings of string-like literals, which no identifier may have. -/
def literalOpenings : List (List Char) :=
  ["r\"", "r#\"", "r##", "b\"", "b'", "br\"", "br#", "c\"", "cr\"", "cr#"].map String.toList

def ident? (cs : List Char) : Option Scanned :=
  if literalOpenings.any (·.isPrefixOf cs) then none else anyIdent? cs

/-- The suffix that a literal may carry. -/
def withSuffix (s : Scanned) : Scanned :=
  match word? s.2 with
  | some (suffix, rest) => (s.1 ++ suffix, rest)
  | none => s

/-! ### Quoted literals -/

/-- What the three families of quoted literals let in. -/
inductive Quoted where
  | text
  | bytes
  | zeroEnded
  deriving DecidableEq, Repr

namespace Quoted

/-- Characters that stand for themselves. -/
def admits : Quoted → Char → Bool
  | .text, _ => true
  | .bytes, c => c.toNat < 128
  | .zeroEnded, c => c.toNat ≠ 0

/-- Characters that are escaped by a backslash alone. -/
def escapes (q : Quoted) (c : Char) : Bool :=
  ['n', 'r', 't', '\\', '\'', '"'].contains c || (c == '0' && q ≠ .zeroEnded)

/-- Values that two hexadecimal digits may have. -/
def admitsByte : Quoted → Nat → Bool
  | .text, n => n < 128
  | .bytes, _ => true
  | .zeroEnded, n => n ≠ 0

/-- Values that a braced code point may have; none are allowed between byte quotes. -/
def admitsCodePoint : Quoted → Nat → Bool
  | .text, n => n.isValidChar
  | .bytes, _ => false
  | .zeroEnded, n => n.isValidChar && n ≠ 0

end Quoted

/-- Where the scan of a cooked string stands. -/
inductive StringScan where
  | body
  | lineFeed
  | escape
  | firstHex
  | secondHex (high : Nat)
  | codePointOpen
  | codePoint (digits value : Nat)
  | blanks
  | blankLineFeed
  deriving DecidableEq, Repr

/-- A step of a scan outside its end: the state after one more character. -/
def StringScan.next (q : Quoted) : StringScan → Char → Option StringScan
  | .body, c =>
    if c = '\\' then some .escape
    else if c = '\r' then some .lineFeed
    else if q.admits c then some .body else none
  | .lineFeed, c => if c = '\n' then some .body else none
  | .escape, c =>
    if c = 'x' then some .firstHex
    else if c = 'u' ∧ q ≠ .bytes then some .codePointOpen
    else if c = '\n' then some .blanks
    else if c = '\r' then some .blankLineFeed
    else if q.escapes c then some .body else none
  | .firstHex, c => (hexValue? c).map .secondHex
  | .secondHex high, c =>
    match hexValue? c with
    | some low => if q.admitsByte (16 * high + low) then some .body else none
    | none => none
  | .codePointOpen, c => if c = '\x7b' then some (.codePoint 0 0) else none
  | .codePoint digits value, c =>
    if c = '_' ∧ 0 < digits then some (.codePoint digits value)
    else if c = '\x7d' ∧ 0 < digits then
      if q.admitsCodePoint value then some .body else none
    else
      match hexValue? c with
      | some d => if digits = 6 then none else some (.codePoint (digits + 1) (16 * value + d))
      | none => none
  | .blanks, c =>
    if c = ' ' ∨ c = '\t' ∨ c = '\n' then some .blanks
    else if c = '\r' then some .blankLineFeed
    else if c = '\\' then some .escape
    else if q.admits c then some .body else none
  | .blankLineFeed, c => if c = '\n' then some .blanks else none

/-- The rest of a cooked string up to and with its closing quote. -/
def cookedString (q : Quoted) : StringScan → List Char → Option Scanned
  | _, [] => none
  | state, c :: rest =>
    if c = '"' ∧ (state = .body ∨ state = .blanks) then some (['"'], rest)
    else
      match state.next q c with
      | some state => (cookedString q state rest).map (Scanned.cons c)
      | none => none

/-- The rest of a raw string up to and with its closing quote and hashes. -/
def rawString (q : Quoted) (hashes : List Char) : List Char → Option Scanned
  | [] => none
  | c :: rest =>
    if c = '"' then
      match hashes.isPrefixOf? rest with
      | some rest => some ('"' :: hashes, rest)
      | none => (rawString q hashes rest).map (Scanned.cons c)
    else if c = '\r' ∧ rest.head? ≠ some '\n' then none
    else if q.admits c then (rawString q hashes rest).map (Scanned.cons c)
    else none

/-- A raw string from its hashes on. -/
def rawFromHashes (q : Quoted) (cs : List Char) : Option Scanned :=
  let hashes := cs.takeWhile (· = '#')
  match cs.dropWhile (· = '#') with
  | '"' :: rest =>
    if hashes.length ≤ 255 then
      (rawString q hashes rest).map (Scanned.prepend (hashes ++ ['"']))
    else none
  | _ => none

def quoted? : List Char → Option Scanned
  | '"' :: rest => (cookedString .text .body rest).map (Scanned.cons '"')
  | 'r' :: rest => (rawFromHashes .text rest).map (Scanned.cons 'r')
  | 'b' :: '"' :: rest => (cookedString .bytes .body rest).map (Scanned.prepend ['b', '"'])
  | 'b' :: 'r' :: rest => (rawFromHashes .bytes rest).map (Scanned.prepend ['b', 'r'])
  | 'c' :: '"' :: rest => (cookedString .zeroEnded .body rest).map (Scanned.prepend ['c', '"'])
  | 'c' :: 'r' :: rest => (rawFromHashes .zeroEnded rest).map (Scanned.prepend ['c', 'r'])
  | _ => none

/-- A braced code point after `\u`: the scan of a text string until it is back in the body. -/
def codePoint (state : StringScan) : List Char → Option Scanned
  | [] => none
  | c :: rest =>
    match state.next .text c with
    | some .body => some ([c], rest)
    | some state => (codePoint state rest).map (Scanned.cons c)
    | none => none

/-- One character between single quotes, without the quotes. -/
def quotedChar? : List Char → Option Scanned
  | '\\' :: 'x' :: a :: b :: rest =>
    match hexValue? a, hexValue? b with
    | some high, some _ => if high < 8 then some (['\\', 'x', a, b], rest) else none
    | _, _ => none
  | '\\' :: 'u' :: rest => (codePoint .codePointOpen rest).map (Scanned.prepend ['\\', 'u'])
  | '\\' :: c :: rest => if Quoted.text.escapes c then some (['\\', c], rest) else none
  | '\\' :: [] => none
  | c :: rest => some ([c], rest)
  | [] => none

/-- One byte between single quotes, without the quotes. -/
def quotedByte? : List Char → Option Scanned
  | '\\' :: 'x' :: a :: b :: rest =>
    match hexValue? a, hexValue? b with
    | some _, some _ => some (['\\', 'x', a, b], rest)
    | _, _ => none
  | '\\' :: c :: rest => if Quoted.bytes.escapes c then some (['\\', c], rest) else none
  | '\\' :: [] => none
  | c :: rest => if c.toNat < 128 then some ([c], rest) else none
  | [] => none

/-- The closing single quote. -/
def closeQuote (s : Scanned) : Option Scanned :=
  match s with
  | (taken, '\'' :: rest) => some (taken ++ ['\''], rest)
  | _ => none

def character? : List Char → Option Scanned
  | 'b' :: '\'' :: rest =>
    (quotedByte? rest).bind closeQuote |>.map (Scanned.prepend ['b', '\''])
  | '\'' :: rest => (quotedChar? rest).bind closeQuote |>.map (Scanned.cons '\'')
  | _ => none

/-! ### Numbers -/

def isDecimalOrBreak (c : Char) : Bool := isDecimal c || c == '_'

/-- The part of an exponent after its letter: a sign at most, and a digit at least. -/
def exponent (sign digit : Bool) : List Char → Option Scanned
  | [] => if digit then some ([], []) else none
  | c :: rest =>
    if (c = '+' ∨ c = '-') ∧ !digit then
      if sign then none else (exponent true digit rest).map (Scanned.cons c)
    else if isDecimal c then (exponent sign true rest).map (Scanned.cons c)
    else if c = '_' then (exponent sign digit rest).map (Scanned.cons c)
    else if digit then some ([], c :: rest) else none

/-- A fractional part opens with a point that neither a range nor a field access has. -/
def fraction (cs : List Char) : Option (Option Scanned) :=
  match cs with
  | '.' :: rest =>
    match rest with
    | c :: _ =>
      if c = '.' ∨ isIdentifierStart c then none
      else some (some ('.' :: rest.takeWhile isDecimalOrBreak, rest.dropWhile isDecimalOrBreak))
    | [] => some (some (['.'], []))
  | _ => some none

/-- A number with a point or an exponent, without its suffix. -/
def floatDigits (cs : List Char) : Option Scanned :=
  let whole := cs.takeWhile isDecimalOrBreak
  let rest := cs.dropWhile isDecimalOrBreak
  match fraction rest with
  | none => none
  | some (some (point, rest)) =>
    match rest with
    | e :: after =>
      if e = 'e' ∨ e = 'E' then
        match exponent false false after with
        | some (taken, after) => some (whole ++ point ++ e :: taken, after)
        | none => some (whole ++ point, rest)
      else some (whole ++ point, rest)
    | [] => some (whole ++ point, [])
  | some none =>
    match rest with
    | e :: after =>
      if e = 'e' ∨ e = 'E' then
        (exponent false false after).map (Scanned.prepend (whole ++ [e]))
      else none
    | [] => none

/-- Digits of a base below 16 stop at a letter but may not hold a larger decimal digit. -/
def baseDigits (base : Nat) (empty : Bool) : List Char → Option Scanned
  | [] => if empty then none else some ([], [])
  | c :: rest =>
    if c = '_' then
      if empty ∧ base = 10 then none else (baseDigits base empty rest).map (Scanned.cons c)
    else
      match hexValue? c with
      | some d =>
        if d < base then (baseDigits base false rest).map (Scanned.cons c)
        else if isDecimal c then none
        else if empty then none else some ([], c :: rest)
      | none => if empty then none else some ([], c :: rest)

def intDigits : List Char → Option Scanned
  | '0' :: 'x' :: rest => (baseDigits 16 true rest).map (Scanned.prepend ['0', 'x'])
  | '0' :: 'o' :: rest => (baseDigits 8 true rest).map (Scanned.prepend ['0', 'o'])
  | '0' :: 'b' :: rest => (baseDigits 2 true rest).map (Scanned.prepend ['0', 'b'])
  | cs => baseDigits 10 true cs

/-- A number takes its suffix, and no letter may follow. -/
def endNumber (s : Scanned) : Option Scanned :=
  let (taken, rest) := withSuffix s
  match rest with
  | c :: _ => if isIdentifierContinue c then none else some (taken, rest)
  | [] => some (taken, rest)

def number? (cs : List Char) : Option Scanned :=
  match cs with
  | c :: _ =>
    if isDecimal c then
      match (floatDigits cs).bind endNumber with
      | some s => some s
      | none => (intDigits cs).bind endNumber
    else none
  | [] => none

def literal? (cs : List Char) : Option Scanned :=
  match quoted? cs with
  | some s => some (withSuffix s)
  | none =>
    match character? cs with
    | some s => some (withSuffix s)
    | none => number? cs

/-! ### Operators -/

def marks : List Char := "~!@#$%^&*-=+|;:,<.>/?'".toList

/-- A mark of an operator; a comment does not begin with one. -/
def mark? : List Char → Option (Char × List Char)
  | [] => none
  | c :: rest =>
    if c = '/' ∧ (rest.head? = some '/' ∨ rest.head? = some '*') then none
    else if marks.contains c then some (c, rest) else none

/-- A quote opens a lifetime only if an identifier follows and no quote closes it. -/
def punct? (cs : List Char) : Option (Token × List Char) :=
  match mark? cs with
  | none => none
  | some ('\'', rest) =>
    match anyIdent? rest with
    | none => none
    | some (_, after) =>
      let raw := ['r', '#'].isPrefixOf rest
      match after.head? with
      | some '\'' => none
      | some '#' => if raw then some (.punct '\'' true, rest) else none
      | _ => some (.punct '\'' true, rest)
  | some (c, rest) => some (.punct c (mark? rest).isSome, rest)

/-! ### All tokens -/

def leaf? (cs : List Char) : Option (Token × List Char) :=
  match literal? cs with
  | some (text, rest) => some (.literal (String.ofList text), rest)
  | none =>
    match punct? cs with
    | some found => some found
    | none => (ident? cs).map fun (name, rest) => (.ident (String.ofList name), rest)

def bracket? : Char → Option Token
  | '(' => some (.opening .parenthesis)
  | ')' => some (.closing .parenthesis)
  | '[' => some (.opening .bracket)
  | ']' => some (.closing .bracket)
  | '\x7b' => some (.opening .brace)
  | '\x7d' => some (.closing .brace)
  | _ => none

/-- The text of a literal that could not be written is a literal. -/
def failedLiteral : String := "(/*ERROR*/)"

def failed? (cs : List Char) : Option (Token × List Char) :=
  (failedLiteral.toList.isPrefixOf? cs).map fun rest => (.literal failedLiteral, rest)

/-- The tokens at the front of a text, which are none for a blank or a comment. -/
def step (cs : List Char) : Option (List Token × List Char) :=
  match cs with
  | [] => none
  | c :: rest =>
    if isSpace c then some ([], rest)
    else
      match plainComment? cs with
      | some rest => some ([], rest)
      | none =>
        match docComment? cs with
        | some comment => some (comment.tokens, comment.rest)
        | none =>
          match failed? cs with
          | some (token, rest) => some ([token], rest)
          | none =>
            match bracket? c with
            | some token => some ([token], rest)
            | none => (leaf? cs).map fun (token, rest) => ([token], rest)

/-- Every step takes a character, so a text is lexed within its own length. -/
def tokensWithin : Nat → List Char → Option (List Token)
  | _, [] => some []
  | 0, _ :: _ => none
  | fuel + 1, cs =>
    match step cs with
    | none => none
    | some (tokens, rest) => (tokensWithin fuel rest).map (tokens ++ ·)

/-- The tokens of a text; a byte order mark before them is no part of it. -/
def tokens (cs : List Char) : Option (List Token) :=
  match cs with
  | c :: rest =>
    if c.toNat = 0xFEFF then tokensWithin rest.length rest else tokensWithin cs.length cs
  | [] => some []

end Lexer

/-- The token trees of a text, unless it does not lex or its brackets do not match. -/
def Tree.ofText (text : String) : Option (List Tree) :=
  (Lexer.tokens text.toList).bind Tree.ofTokens

end Companion.Code

import Companion.Pattern.Ast
import Companion.Unicode.Age
import Companion.Unicode.CaseFold
import Companion.Unicode.Property
import Companion.Unicode.Script

/-! Sets of characters that patterns name. -/

set_option autoImplicit false

namespace Companion.Pattern.CharSet

open Unicode

/-- The characters of spans that rise. -/
def ofSpans (spans : List (Char × Char)) : Ranges :=
  .ofRising (spans.map fun (first, last) => ⟨first, last⟩)

def digits : Ranges := .range '0' '9'

def lowerLetters : Ranges := .range 'a' 'z'

def upperLetters : Ranges := .range 'A' 'Z'

def blanks : Ranges := ofSpans [('\t', '\r'), (' ', ' ')]

def wordCharacters : Ranges := .unions [digits, lowerLetters, upperLetters, .single '_']

def ofAsciiClass : AsciiClass → Ranges
  | .alnum => .unions [digits, lowerLetters, upperLetters]
  | .alpha => lowerLetters.union upperLetters
  | .ascii => .range '\x00' '\x7f'
  | .blank => ofSpans [('\t', '\t'), (' ', ' ')]
  | .cntrl => ofSpans [('\x00', '\x1f'), ('\x7f', '\x7f')]
  | .digit => digits
  | .graph => .range '!' '~'
  | .lower => lowerLetters
  | .print => .range ' ' '~'
  | .punct => ofSpans [('!', '/'), (':', '@'), ('[', '\x60'), ('\x7b', '~')]
  | .space => blanks
  | .upper => upperLetters
  | .word => wordCharacters
  | .xdigit => ofSpans [('0', '9'), ('A', 'F'), ('a', 'f')]

def ofShorthand (unicode : Bool) : Shorthand → Ranges
  | .digit => if unicode then Category.decimalNumber else digits
  | .space => if unicode then Property.whiteSpace else blanks
  | .word => if unicode then Property.word else wordCharacters

def combine (operator : SetOperator) (s t : Ranges) : Ranges :=
  match operator with
  | .intersection => s.inter t
  | .difference => s.diff t
  | .symmetricDifference => s.symmetricDiff t

/-- The set with each code point moved. -/
def shift (offset : Int) (s : Ranges) : Ranges :=
  let move (c : Char) : Char := Char.ofNat ((c.toNat : Int) + offset).toNat
  ⟨s.spans.map fun t => ⟨move t.first, move t.last⟩⟩

/-- The members, and each letter of ASCII among them in its other case. -/
def foldAscii (s : Ranges) : Ranges :=
  .unions [s, shift (-32) (s.inter lowerLetters), shift 32 (s.inter upperLetters)]

def foldCase (unicode : Bool) (s : Ranges) : Ranges := if unicode then s.foldCase else foldAscii s

/-! ### Properties -/

/-- Names are compared without case, spaces, dashes and underscores, and without a leading `is`,
save for the abbreviation `isc`. -/
def normalizeName (name : String) : String :=
  let significant (cs : List Char) : List Char :=
    (cs.filter fun c => c.toNat < 128 && c ≠ ' ' && c ≠ '-' && c ≠ '_').map Char.toLower
  let cs := name.toList
  if (cs.take 2).map Char.toLower = ['i', 's'] then
    let rest := significant (cs.drop 2)
    if rest = ['c'] then "isc" else String.ofList rest
  else String.ofList (significant cs)

/-- A property, category or script by its name alone. Names that two of these share are
categories. -/
def ofName? (name : String) : Option Ranges :=
  let category := Category.find? name
  if ["cf", "lc", "sc"].contains name then category
  else Property.find? name <|> category <|> Script.find? name

/-- The characters for which a property has a value. -/
def ofValue? (property value : String) : Option Ranges :=
  match property with
  | "gc" | "generalcategory" => Category.find? value
  | "sc" | "script" => Script.find? value
  | "scx" | "scriptextensions" => Script.findExtended? value
  | "age" => Age.find? value
  | "gcb" | "graphemeclusterbreak" => Segmentation.cluster.find? value
  | "wb" | "wordbreak" => Segmentation.word.find? value
  | "sb" | "sentencebreak" => Segmentation.sentence.find? value
  | _ => none

def ofProperty? : PropertyName → Option Ranges
  | .alone name => ofName? (normalizeName name)
  | .value property name => ofValue? (normalizeName property) (normalizeName name)

end Companion.Pattern.CharSet

import Companion.Code.StringLiteral
import Companion.Proofs.Code.Lexing
import Mathlib.Data.List.Infix
import Mathlib.Data.List.DropRight
import Mathlib.Order.Bounds.Basic

/-! What string literals stand for, and which texts have a literal that stands for them. -/

set_option autoImplicit false

namespace Companion.Code

namespace Lexer

/-! ### Values -/

/-- A code point as a part of a value: of a text, or of its bytes. -/
def Quoted.units (q : Quoted) (n : Nat) : List Nat :=
  match q with
  | .text | .bytes => [n]
  | .zeroEnded => (String.utf8EncodeChar (Char.ofNat n)).map UInt8.toNat

/-- What a character inside a cooked string adds to its value. -/
def StringScan.adds (q : Quoted) : StringScan → Char → List Nat
  | .body, c => if c = '\\' ∨ c = '\r' then [] else q.units c.toNat
  | .lineFeed, c => [c.toNat]
  | .escape, c =>
    if c = 'n' then [10]
    else if c = 'r' then [13]
    else if c = 't' then [9]
    else if c = '0' then [0]
    else if q.escapes c then [c.toNat] else []
  | .secondHex high, c => (hexValue? c).toList.map (16 * high + ·)
  | .codePoint _ value, c => if c = '\x7d' then q.units value else []
  | .blanks, c =>
    if c = ' ' ∨ c = '\t' ∨ c = '\n' ∨ c = '\r' ∨ c = '\\' then [] else q.units c.toNat
  | .firstHex, _ | .codePointOpen, _ | .blankLineFeed, _ => []

/-- The value of a cooked string, up to its closing quote. -/
def cookedValue (q : Quoted) : StringScan → List Char → List Nat
  | _, [] => []
  | state, c :: rest =>
    if c = '"' ∧ (state = .body ∨ state = .blanks) then []
    else
      match state.next q c with
      | some next => state.adds q c ++ cookedValue q next rest
      | none => []

/-- The value of what stands between the quotes of a raw string. The end of a line counts as a
line feed, whether or not a return is before it. -/
def rawValue (q : Quoted) (cs : List Char) : List Nat :=
  cs.flatMap fun c => if c = '\r' then [] else q.units c.toNat

structure StringValue where
  quoted : Quoted
  units : List Nat
  suffix : List Char
  deriving DecidableEq, Repr

def cookedLiteral? (q : Quoted) (cs : List Char) : Option StringValue :=
  (cookedString q .body cs).map fun (_, suffix) => ⟨q, cookedValue q .body cs, suffix⟩

/-- A raw string from its hashes on. -/
def rawLiteral? (q : Quoted) (cs : List Char) : Option StringValue :=
  let border := (cs.takeWhile (· = '#')).length + 1
  (rawFromHashes q cs).map fun (taken, suffix) =>
    ⟨q, rawValue q ((taken.drop border).rdrop border), suffix⟩

/-- What a literal between double quotes stands for. -/
def stringValue? : List Char → Option StringValue
  | '"' :: rest => cookedLiteral? .text rest
  | 'r' :: rest => rawLiteral? .text rest
  | 'b' :: '"' :: rest => cookedLiteral? .bytes rest
  | 'b' :: 'r' :: rest => rawLiteral? .bytes rest
  | 'c' :: '"' :: rest => cookedLiteral? .zeroEnded rest
  | 'c' :: 'r' :: rest => rawLiteral? .zeroEnded rest
  | _ => none

end Lexer

namespace StringLiteral

open Lexer

variable {cs : List Char}

/-! ### Cooked literals -/

/-- A return that stands alone ends no scan of a cooked string. -/
theorem cookedString_lineFeed (q : Quoted) (unfed : cs.head? ≠ some '\n') :
    cookedString q .lineFeed cs = none := by
  cases cs with
  | nil => rfl
  | cons c cs =>
    have other : c ≠ '\n' := by simpa using unfed
    simp [cookedString, StringScan.next, other]

theorem head?_escaped (cs : List Char) :
    (cs.flatMap escapeLineFeed ++ ['"']).head? ≠ some '\n' := by
  cases cs with
  | nil => decide
  | cons c cs =>
    by_cases fed : c = '\n'
    · simp [escapeLineFeed, fed]
    · simp [escapeLineFeed, fed]

theorem cookedString_escaped (unescaped : '\\' ∉ cs) (unquoted : '"' ∉ cs) :
    cookedString .text .body (cs.flatMap escapeLineFeed ++ ['"']) =
      if '\r' ∈ cs then none else some (cs.flatMap escapeLineFeed ++ ['"'], []) := by
  induction cs with
  | nil => rfl
  | cons c cs ih =>
    rw [List.mem_cons, not_or] at unescaped unquoted
    have rest := ih unescaped.2 unquoted.2
    by_cases fed : c = '\n'
    · subst fed
      simp [escapeLineFeed, cookedString, StringScan.next, Quoted.escapes, rest, apply_ite,
        Scanned.cons]
    · by_cases returned : c = '\r'
      · subst returned
        simp [escapeLineFeed, cookedString, StringScan.next,
          cookedString_lineFeed .text (head?_escaped cs)]
      · simp [escapeLineFeed, cookedString, StringScan.next, Quoted.admits, fed, returned,
          Ne.symm returned, Ne.symm unescaped.1, Ne.symm unquoted.1, rest, apply_ite, Scanned.cons]

theorem cookedValue_escaped (unescaped : '\\' ∉ cs) (unquoted : '"' ∉ cs) (unreturned : '\r' ∉ cs) :
    cookedValue .text .body (cs.flatMap escapeLineFeed ++ ['"']) = cs.map Char.toNat := by
  induction cs with
  | nil => rfl
  | cons c cs ih =>
    rw [List.mem_cons, not_or] at unescaped unquoted unreturned
    have rest := ih unescaped.2 unquoted.2 unreturned.2
    by_cases fed : c = '\n'
    · subst fed
      simp [escapeLineFeed, cookedValue, StringScan.next, StringScan.adds, Quoted.escapes, rest]
    · simp [escapeLineFeed, cookedValue, StringScan.next, StringScan.adds, Quoted.admits,
        Quoted.units, fed, Ne.symm unreturned.1, Ne.symm unescaped.1, Ne.symm unquoted.1, rest]

/-! ### Raw literals -/

/-- Hashes are found in front of a text if that many stand there. -/
theorem isPrefixOf?_hashes (n : Nat) (cs : List Char) :
    (List.replicate n '#').isPrefixOf? cs =
      if n ≤ (cs.takeWhile (· = '#')).length then some (cs.drop n) else none := by
  induction n generalizing cs with
  | zero => simp [List.isPrefixOf?]
  | succ n ih =>
    cases cs with
    | nil => rfl
    | cons c cs =>
      by_cases hash : c = '#'
      · simp [List.replicate_succ, List.isPrefixOf?, hash, ih]
      · simp [List.replicate_succ, List.isPrefixOf?, hash, Ne.symm hash]

theorem hashes_after (cs after : List Char) :
    ((cs ++ '"' :: after).takeWhile (· = '#')).length = (cs.takeWhile (· = '#')).length := by
  induction cs with
  | nil => rfl
  | cons c cs ih =>
    by_cases hash : c = '#'
    · simp [hash, ih]
    · simp [hash]

theorem returnsPaired_cons {c : Char} (other : c ≠ '\r') :
    returnsPaired (c :: cs) = returnsPaired cs := by
  rw [returnsPaired]
  · exact fun _ same => absurd same other
  · exact other

theorem returnsPaired_return (cs : List Char) :
    returnsPaired ('\r' :: cs) = (decide (cs.head? = some '\n') && returnsPaired cs) := by
  cases cs with
  | nil => rfl
  | cons c cs =>
    by_cases fed : c = '\n'
    · subst fed
      rw [returnsPaired, returnsPaired_cons (by decide)]
      simp
    · simp [returnsPaired, fed]

theorem returnsPaired_of_not_mem (unreturned : '\r' ∉ cs) : returnsPaired cs = true := by
  induction cs with
  | nil => rfl
  | cons c cs ih =>
    rw [List.mem_cons, not_or] at unreturned
    rw [returnsPaired_cons (Ne.symm unreturned.1), ih unreturned.2]

theorem rawString_closed {n : Nat} (hashes : longestRun cs < n) :
    rawString .text (List.replicate n '#') (cs ++ '"' :: List.replicate n '#') =
      if returnsPaired cs then some (cs ++ '"' :: List.replicate n '#', []) else none := by
  induction cs with
  | nil => simp [rawString, isPrefixOf?_hashes, returnsPaired]
  | cons c cs ih =>
    by_cases quote : c = '"'
    · subst quote
      rw [longestRun, if_pos rfl, Nat.max_lt] at hashes
      have unclosed : ¬ n ≤ (cs.takeWhile (· = '#')).length := by omega
      simp [rawString, isPrefixOf?_hashes, hashes_after, unclosed, ih hashes.2,
        returnsPaired_cons, apply_ite, Scanned.cons]
    · rw [longestRun, if_neg quote] at hashes
      by_cases returned : c = '\r'
      · subst returned
        have next : (cs ++ '"' :: List.replicate n '#').head? ≠ some '\n' ↔
            cs.head? ≠ some '\n' := by
          cases cs <;> simp
        simp only [List.cons_append, rawString, if_neg quote, next, ih hashes, returnsPaired_return]
        by_cases fed : cs.head? = some '\n' <;>
          simp [fed, Quoted.admits, apply_ite, Scanned.cons]
      · simp [rawString, quote, returned, Quoted.admits, ih hashes, returnsPaired_cons returned,
          apply_ite, Scanned.cons]

theorem rawValue_text (cs : List Char) :
    rawValue .text cs = (cs.filter (· ≠ '\r')).map Char.toNat := by
  unfold rawValue
  induction cs with
  | nil => rfl
  | cons c cs ih =>
    rw [List.flatMap_cons, ih]
    by_cases returned : c = '\r' <;> simp [returned, Quoted.units]

/-! ### The number of hashes -/

theorem hashes_prefix_iff (n : Nat) (cs : List Char) :
    List.replicate n '#' <+: cs ↔ n ≤ (cs.takeWhile (· = '#')).length := by
  constructor
  · rintro ⟨more, same⟩
    have found := List.isPrefixOf?_eq_some_iff_append_eq.mpr same
    rw [isPrefixOf?_hashes] at found
    by_contra few
    rw [if_neg few] at found
    cases found
  · intro enough
    exact ⟨_, List.isPrefixOf?_eq_some_iff_append_eq.mp (by rw [isPrefixOf?_hashes, if_pos enough])⟩

theorem hashes_infix_iff {n : Nat} (positive : 0 < n) (cs : List Char) :
    ('"' :: List.replicate n '#') <:+: cs ↔ n ≤ longestRun cs := by
  induction cs with
  | nil => simp [longestRun, Nat.pos_iff_ne_zero.mp positive]
  | cons c cs ih =>
    rw [List.infix_cons_iff, ih, longestRun, List.cons_prefix_cons, hashes_prefix_iff]
    by_cases quote : c = '"'
    · simp [quote]
    · simp [quote, Ne.symm quote]

/-- Hashes are added until no quote of the text has as many after it. -/
theorem isLeast_hashes (cs : List Char) :
    IsLeast { n | 0 < n ∧ ¬ ('"' :: List.replicate n '#') <:+: cs } (longestRun cs + 1) := by
  constructor
  · refine ⟨Nat.succ_pos _, ?_⟩
    rw [hashes_infix_iff (Nat.succ_pos _)]
    omega
  · rintro n ⟨positive, apart⟩
    rw [hashes_infix_iff positive] at apart
    omega

/-! ### Texts with a literal that stands for them -/

/-- A text with a backslash or a quote is written as a raw literal. -/
def IsRaw (cs : List Char) : Prop := '\\' ∈ cs ∨ '"' ∈ cs

theorem contains_iff_isRaw (cs : List Char) :
    (cs.contains '\\' || cs.contains '"') = true ↔ IsRaw cs := by
  simp [IsRaw]

theorem write_of_isRaw (raw : IsRaw cs) :
    write cs = 'r' :: (List.replicate (longestRun cs + 1) '#' ++
      '"' :: (cs ++ '"' :: List.replicate (longestRun cs + 1) '#')) := by
  rw [write, if_pos ((contains_iff_isRaw cs).mpr raw)]
  simp

theorem write_of_not_isRaw (cooked : ¬ IsRaw cs) :
    write cs = '"' :: (cs.flatMap escapeLineFeed ++ ['"']) := by
  rw [write, if_neg (mt (contains_iff_isRaw cs).mp cooked)]
  rfl

theorem rawFromHashes_append (n : Nat) (q : Quoted) (rest : List Char) :
    rawFromHashes q (List.replicate n '#' ++ '"' :: rest) =
      if n ≤ 255 then
        (rawString q (List.replicate n '#') rest).map
          (Scanned.prepend (List.replicate n '#' ++ ['"']))
      else none := by
  have taken : (List.replicate n '#' ++ '"' :: rest).takeWhile (· = '#') =
      List.replicate n '#' := by
    rw [List.takeWhile_append_of_pos (by simp), List.takeWhile_cons_of_neg (by simp),
      List.append_nil]
  have left : (List.replicate n '#' ++ '"' :: rest).dropWhile (· = '#') = '"' :: rest := by
    rw [List.dropWhile_append_of_pos (by simp), List.dropWhile_cons_of_neg (by simp)]
  simp only [rawFromHashes, taken, left, List.length_replicate]

theorem between_hashes (n : Nat) (cs : List Char) :
    ((List.replicate n '#' ++ ['"'] ++ (cs ++ '"' :: List.replicate n '#')).drop (n + 1)).rdrop
      (n + 1) = cs := by
  have border : n + 1 = ('"' :: List.replicate n '#').length := by simp
  rw [List.drop_left' (by simp), border, List.rdrop_append_length]

/-- What makes the literal of a text one: a raw literal has no more than 255 hashes and no return
outside the end of a line, and another literal has no return at all. -/
def IsAdmitted (cs : List Char) : Prop :=
  (IsRaw cs → returnsPaired cs ∧ longestRun cs + 1 ≤ 255) ∧ (¬ IsRaw cs → '\r' ∉ cs)

theorem isAdmitted_of_isRaw (raw : IsRaw cs) :
    IsAdmitted cs ↔ returnsPaired cs ∧ longestRun cs + 1 ≤ 255 := by
  simp [IsAdmitted, raw]

theorem isAdmitted_of_not_isRaw (cooked : ¬ IsRaw cs) : IsAdmitted cs ↔ '\r' ∉ cs := by
  simp [IsAdmitted, cooked]

theorem quoted?_write_eq_some (admitted : IsAdmitted cs) :
    quoted? (write cs) = some (write cs, []) := by
  by_cases raw : IsRaw cs
  · obtain ⟨paired, few⟩ := (isAdmitted_of_isRaw raw).mp admitted
    rw [write_of_isRaw raw, quoted?, rawFromHashes_append, rawString_closed (Nat.lt_add_one _),
      if_pos few, if_pos paired]
    simp [Scanned.cons, Scanned.prepend]
  · have unreturned := (isAdmitted_of_not_isRaw raw).mp admitted
    rw [IsRaw, not_or] at raw
    rw [write_of_not_isRaw (by simpa [IsRaw] using raw), quoted?,
      cookedString_escaped raw.1 raw.2, if_neg unreturned]
    rfl

theorem quoted?_write_eq_none (refused : ¬ IsAdmitted cs) : quoted? (write cs) = none := by
  by_cases raw : IsRaw cs
  · rw [isAdmitted_of_isRaw raw] at refused
    rw [write_of_isRaw raw, quoted?, rawFromHashes_append, rawString_closed (Nat.lt_add_one _)]
    by_cases paired : returnsPaired cs
    · rw [if_neg fun few => refused ⟨paired, few⟩]
      rfl
    · simp [paired]
  · have returned := not_not.mp (mt (isAdmitted_of_not_isRaw raw).mpr refused)
    rw [IsRaw, not_or] at raw
    rw [write_of_not_isRaw (by simpa [IsRaw] using raw), quoted?,
      cookedString_escaped raw.1 raw.2, if_pos returned]
    rfl

theorem stringValue?_write (admitted : IsAdmitted cs) :
    stringValue? (write cs) = some ⟨.text, (cs.filter (· ≠ '\r')).map Char.toNat, []⟩ := by
  by_cases raw : IsRaw cs
  · obtain ⟨paired, few⟩ := (isAdmitted_of_isRaw raw).mp admitted
    have border : ((List.replicate (longestRun cs + 1) '#' ++
        '"' :: (cs ++ '"' :: List.replicate (longestRun cs + 1) '#')).takeWhile (· = '#')).length =
        longestRun cs + 1 := by
      rw [hashes_after, List.takeWhile_replicate]
      simp
    rw [write_of_isRaw raw, stringValue?, rawLiteral?, rawFromHashes_append,
      rawString_closed (Nat.lt_add_one _), if_pos few, if_pos paired]
    simp only [Option.map_some, Scanned.prepend, border, between_hashes, rawValue_text]
  · have unreturned := (isAdmitted_of_not_isRaw raw).mp admitted
    rw [IsRaw, not_or] at raw
    rw [write_of_not_isRaw (by simpa [IsRaw] using raw), stringValue?, cookedLiteral?,
      cookedString_escaped raw.1 raw.2, if_neg unreturned,
      cookedValue_escaped raw.1 raw.2 unreturned, List.filter_eq_self.mpr]
    · rfl
    · intro c member
      simpa using ne_of_mem_of_not_mem member unreturned

theorem exists_write (cs : List Char) : ∃ c rest, write cs = c :: rest ∧ c ∈ ['r', '"'] := by
  by_cases raw : IsRaw cs
  · exact ⟨_, _, write_of_isRaw raw, by simp⟩
  · exact ⟨_, _, write_of_not_isRaw raw, by simp⟩

/-- No name begins as a literal does. -/
theorem ident?_write (cs : List Char) : ident? (write cs) = none := by
  by_cases raw : IsRaw cs
  · have opening : literalOpenings.any (·.isPrefixOf (write cs)) = true := by
      rw [write_of_isRaw raw]
      cases longestRun cs <;> rfl
    rw [ident?, if_pos opening]
  · have unnamed : anyIdent? (write cs) = none := by
      rw [write_of_not_isRaw raw]
      rfl
    rw [ident?, unnamed, ite_self]

theorem step_write (cs : List Char) :
    step (write cs) = (quoted? (write cs)).map fun s =>
      ([.literal (String.ofList (withSuffix s).1)], (withSuffix s).2) := by
  have unnamed := ident?_write cs
  obtain ⟨c, rest, same, listed⟩ := exists_write cs
  rw [same] at unnamed ⊢
  have known : ∀ c ∈ ['r', '"'], isSpace c = false ∧ c ≠ '/' ∧ c ≠ '(' ∧ c ≠ 'b' ∧ c ≠ '\'' ∧
      bracket? c = none ∧ isDecimal c = false ∧ marks.contains c = false :=
    Chars.forall_mem_of_all (by decide +kernel)
  obtain ⟨visible, slash, parenthesis, letter, quote, bracket, decimal, mark⟩ := known c listed
  have character : character? (c :: rest) = none := by
    unfold character?
    split <;> simp_all
  have unmarked : mark? (c :: rest) = none := by
    rw [mark?, if_neg (absurd ·.1 slash), if_neg (Bool.eq_false_iff.mp mark)]
  rw [step_visible visible slash (absurd · parenthesis), bracket]
  cases found : quoted? (c :: rest) with
  | none => simp [leaf?, literal?, found, character, number?, decimal, punct?, unmarked, unnamed]
  | some s => simp [leaf?, literal?, found]

theorem tokens_write (cs : List Char) :
    tokens (write cs) = (step (write cs)).bind fun (tokens, rest) =>
      (tokensWithin (write cs).length.pred rest).map (tokens ++ ·) := by
  obtain ⟨c, rest, same, listed⟩ := exists_write cs
  have mark : ∀ c ∈ ['r', '"'], c.toNat ≠ 0xFEFF := Chars.forall_mem_of_all (by decide)
  rw [same, tokens, if_neg (mark c listed), List.length_cons, tokensWithin]
  · cases step (c :: rest) <;> rfl
  · nofun

theorem tokens_write_eq_some (admitted : IsAdmitted cs) :
    tokens (write cs) = some [.literal (String.ofList (write cs))] := by
  rw [tokens_write, step_write, quoted?_write_eq_some admitted]
  simp [withSuffix, word?, tokensWithin]

theorem tokens_write_eq_none (refused : ¬ IsAdmitted cs) : tokens (write cs) = none := by
  rw [tokens_write, step_write, quoted?_write_eq_none refused]
  rfl

end StringLiteral

open Lexer StringLiteral

theorem toList_stringLiteral (text : String) : (stringLiteral text).toList = write text.toList := by
  rw [stringLiteral, Text.onChars, String.toList_ofList]

/-- The text of one literal token that stands for a text. -/
def IsLiteralOf (literal : String) (value : List Char) : Prop :=
  tokens literal.toList = some [.literal literal] ∧
    stringValue? literal.toList = some ⟨.text, value.map Char.toNat, []⟩

/-- What an admitted literal stands for: the end of a line is read as a line feed. -/
theorem isLiteralOf_of_isAdmitted {text : String} (admitted : IsAdmitted text.toList) :
    IsLiteralOf (stringLiteral text) (text.toList.filter (· ≠ '\r')) := by
  refine ⟨?_, ?_⟩
  · rw [toList_stringLiteral, tokens_write_eq_some admitted]
    rfl
  · rw [toList_stringLiteral, stringValue?_write admitted]

theorem isAdmitted_of_not_mem {cs : List Char} (unreturned : '\r' ∉ cs) :
    IsAdmitted cs ↔ (IsRaw cs → longestRun cs + 1 ≤ 255) := by
  simp [IsAdmitted, unreturned, returnsPaired_of_not_mem unreturned]

theorem isLiteralOf_iff (text : String) :
    IsLiteralOf (stringLiteral text) text.toList ↔
      '\r' ∉ text.toList ∧ (IsRaw text.toList → longestRun text.toList + 1 ≤ 255) := by
  constructor
  · rintro ⟨lexed, value⟩
    have admitted : IsAdmitted text.toList := by
      by_contra refused
      have none := tokens_write_eq_none refused
      rw [toList_stringLiteral, none] at lexed
      cases lexed
    have same := (isLiteralOf_of_isAdmitted admitted).2
    rw [value] at same
    have kept : (text.toList.map Char.toNat).length =
        ((text.toList.filter (· ≠ '\r')).map Char.toNat).length := by
      simp only [Option.some.injEq, StringValue.mk.injEq] at same
      rw [same.2.1]
    have unreturned : '\r' ∉ text.toList := by
      rw [List.length_map, List.length_map, eq_comm, List.length_filter_eq_length_iff] at kept
      intro member
      simpa using kept '\r' member
    exact ⟨unreturned, (isAdmitted_of_not_mem unreturned).mp admitted⟩
  · rintro ⟨unreturned, few⟩
    have literal := isLiteralOf_of_isAdmitted ((isAdmitted_of_not_mem unreturned).mpr few)
    rwa [List.filter_eq_self.mpr] at literal
    intro c member
    simpa using ne_of_mem_of_not_mem member unreturned

/-- The search for hashes ends, with as few of them as close the literal at its end. What it makes
of a text is one literal token that stands for the text exactly if the text holds no return, and if
no more hashes are needed than a raw literal may have. Any other literal that is admitted is read
with each end of a line as a line feed, and what is not admitted is no text of tokens at all. -/
theorem stringLiteral_reads (text : String) :
    ∃ hashes, IsLeast { n | 0 < n ∧ ¬ ('"' :: List.replicate n '#') <:+: text.toList } hashes ∧
      (IsRaw text.toList → (stringLiteral text).toList =
        'r' :: (List.replicate hashes '#' ++
          '"' :: (text.toList ++ '"' :: List.replicate hashes '#'))) ∧
      (IsLiteralOf (stringLiteral text) text.toList ↔
        '\r' ∉ text.toList ∧ (IsRaw text.toList → hashes ≤ 255)) ∧
      (IsAdmitted text.toList →
        IsLiteralOf (stringLiteral text) (text.toList.filter (· ≠ '\r'))) ∧
      (¬ IsAdmitted text.toList → tokens (stringLiteral text).toList = none) := by
  refine ⟨_, isLeast_hashes text.toList, fun raw => ?_, isLiteralOf_iff text,
    isLiteralOf_of_isAdmitted, fun refused => ?_⟩
  · rw [toList_stringLiteral, write_of_isRaw raw]
  · rw [toList_stringLiteral, tokens_write_eq_none refused]

example : tokens (stringLiteral "a\rb").toList = none := by decide +kernel

end Companion.Code

import Companion.Proofs.Code.Spanning

/-! What is read of a text whose lines are put at a new depth.

A text means the same as before exactly if no lexeme has a line feed in it, strings apart that leave
out every one of theirs.
-/

set_option autoImplicit false

namespace Companion.Code

open Lexer

namespace Lexer

/-- Whether a literal holds no line feeds but those that a string leaves out. -/
def isUnbroken : List Char → Bool
  | '"' :: cs => leavesOut .text .body cs
  | 'b' :: '"' :: cs => leavesOut .bytes .body cs
  | 'c' :: '"' :: cs => leavesOut .zeroEnded .body cs
  | cs => decide ('\n' ∉ cs)

end Lexer

/-- Whether a lexeme holds no line feeds but those that a string leaves out. -/
def Lexeme.isUnbroken : Lexeme → Bool
  | .token (.literal text) => Lexer.isUnbroken text.toList
  | .token _ => true
  | .documentation _ text => decide ('\n' ∉ text)

namespace Lexer

section

variable {width : Nat} {q : Quoted} {cs rest taken left after : List Char} {c : Char}

/-! ### Strings -/

/-- What is in front of a cooked string. -/
inductive CookedFront : List Char → Quoted → Prop
  | text : CookedFront ['"'] .text
  | bytes : CookedFront ['b', '"'] .bytes
  | zeroEnded : CookedFront ['c', '"'] .zeroEnded

/-- What is in front of the hashes of a raw string. -/
inductive RawFront : List Char → Quoted → Prop
  | text : RawFront ['r'] .text
  | bytes : RawFront ['b', 'r'] .bytes
  | zeroEnded : RawFront ['c', 'r'] .zeroEnded

namespace CookedFront

variable {front : List Char}

theorem quoted? (opens : CookedFront front q) (cs : List Char) :
    quoted? (front ++ cs) = (cookedString q .body cs).map (Scanned.prepend front) := by
  cases opens <;> rfl

theorem stringValue? (opens : CookedFront front q) (cs : List Char) :
    stringValue? (front ++ cs) = cookedLiteral? q cs := by
  cases opens <;> rfl

theorem isUnbroken (opens : CookedFront front q) (cs : List Char) :
    isUnbroken (front ++ cs) = leavesOut q .body cs := by
  cases opens <;> rfl

theorem unbroken (opens : CookedFront front q) : '\n' ∉ front ∧ '\r' ∉ front := by
  cases opens <;> decide

end CookedFront

namespace RawFront

variable {front : List Char}

theorem quoted? (opens : RawFront front q) (cs : List Char) :
    quoted? (front ++ cs) = (rawFromHashes q cs).map (Scanned.prepend front) := by
  cases opens <;> rfl

theorem stringValue? (opens : RawFront front q) (cs : List Char) :
    stringValue? (front ++ cs) = rawLiteral? q cs := by
  cases opens <;> rfl

theorem isUnbroken (opens : RawFront front q) (cs : List Char) :
    isUnbroken (front ++ cs) = decide ('\n' ∉ front ++ cs) := by
  cases opens <;> rfl

theorem unbroken (opens : RawFront front q) : '\n' ∉ front ∧ '\r' ∉ front := by
  cases opens <;> decide

end RawFront

theorem quoted?_cases (found : quoted? cs = some (taken, left)) :
    (∃ front q body, CookedFront front q ∧ taken = front ++ body ∧
      cookedString q .body body = some (body, [])) ∨
    ∃ front q n body, RawFront front q ∧ n ≤ 255 ∧
      taken = front ++ (List.replicate n '#' ++ '"' :: body) ∧
      rawString q (List.replicate n '#') body = some (body, []) := by
  have cooked {front body : List Char} {q : Quoted} (opens : CookedFront front q)
      (found : (cookedString q .body body).map (Scanned.prepend front) = some (taken, left)) :
      ∃ front q body, CookedFront front q ∧ taken = front ++ body ∧
        cookedString q .body body = some (body, []) := by
    obtain ⟨s, scanned, same⟩ := Option.map_eq_some_iff.mp found
    cases same
    obtain ⟨-, -, again⟩ := closed_cookedString _ _ _ _ _ scanned
    exact ⟨front, q, s.1, opens, rfl, by simpa using again []⟩
  have raw {front body : List Char} {q : Quoted} (opens : RawFront front q)
      (found : (rawFromHashes q body).map (Scanned.prepend front) = some (taken, left)) :
      ∃ front q n body, RawFront front q ∧ n ≤ 255 ∧
        taken = front ++ (List.replicate n '#' ++ '"' :: body) ∧
        rawString q (List.replicate n '#') body = some (body, []) := by
    obtain ⟨s, scanned, same⟩ := Option.map_eq_some_iff.mp found
    cases same
    obtain ⟨n, rest, rfl⟩ := exists_hashes scanned
    rw [StringLiteral.rawFromHashes_append] at scanned
    obtain ⟨few, scanned⟩ := Option.ite_none_right_eq_some.mp scanned
    obtain ⟨s', closes, same⟩ := Option.map_eq_some_iff.mp scanned
    cases same
    obtain ⟨-, -, again⟩ := closed_rawString _ _ _ _ _ closes
    exact ⟨front, q, n, s'.1, opens, few, by simp [Scanned.prepend], by simpa using again []⟩
  unfold quoted? at found
  split at found
  next => exact .inl (cooked .text found)
  next => exact .inr (raw .text found)
  next => exact .inl (cooked .bytes found)
  next => exact .inr (raw .bytes found)
  next => exact .inl (cooked .zeroEnded found)
  next => exact .inr (raw .zeroEnded found)
  next => cases found

theorem Run.append {state : StringScan} (run : Run q state cs) (suffix : List Char) :
    cookedValue q state (cs ++ suffix) = cookedValue q state cs ∧
      leavesOut q state (cs ++ suffix) = leavesOut q state cs := by
  induction run with
  | close ready => simp [cookedValue, leavesOut, ready]
  | plain unfed unreturned inside stepped more ih =>
    rw [List.cons_append, cookedValue_step inside stepped, cookedValue_step inside stepped,
      leavesOut_step inside stepped, leavesOut_step inside stepped, ih.1, ih.2]
    exact ⟨rfl, rfl⟩
  | feed fed more ih =>
    rw [List.cons_append, (cookedValue_feed fed _).1, (cookedValue_feed fed _).1,
      (leavesOut_feed fed _).1, (leavesOut_feed fed _).1, ih.1, ih.2]
    exact ⟨rfl, rfl⟩
  | long fed more ih =>
    rw [List.cons_append, List.cons_append, (cookedValue_feed fed _).2, (cookedValue_feed fed _).2,
      (leavesOut_feed fed _).2, (leavesOut_feed fed _).2, ih.1, ih.2]
    exact ⟨rfl, rfl⟩

theorem cookedLiteral?_append (closes : cookedString q .body cs = some (cs, []))
    (suffix : List Char) :
    cookedLiteral? q (cs ++ suffix) = some ⟨q, cookedValue q .body cs, suffix⟩ := by
  obtain ⟨-, -, again⟩ := closed_cookedString _ _ _ _ _ closes
  rw [cookedLiteral?, again, (((run_of_cookedString closes).1 rfl).append suffix).1]
  rfl

theorem rawLiteral?_append {n : Nat} {content : List Char} (few : n ≤ 255)
    (closes : rawString q (List.replicate n '#') (content ++ '"' :: List.replicate n '#') =
      some (content ++ '"' :: List.replicate n '#', [])) (suffix : List Char) :
    rawLiteral? q (List.replicate n '#' ++ '"' :: (content ++ '"' :: List.replicate n '#') ++
      suffix) = some ⟨q, rawValue q content, suffix⟩ := by
  obtain ⟨-, -, again⟩ := closed_rawString _ _ _ _ _ closes
  rw [List.append_assoc, List.cons_append]
  have border : ((List.replicate n '#' ++ '"' ::
      (content ++ '"' :: List.replicate n '#' ++ suffix)).takeWhile (· = '#')).length = n := by
    rw [StringLiteral.hashes_after, List.takeWhile_replicate]
    simp
  simp only [rawLiteral?, border, StringLiteral.rawFromHashes_append, if_pos few, again,
    Option.map_some, Scanned.prepend, StringLiteral.between_hashes]

/-- A string, the same one with its lines at a new depth, and the values of both. A suffix may come
behind either. -/
structure StringRelaid (width : Nat) (left taken taken' : List Char) (q : Quoted)
    (units units' : List Nat) : Prop where
  quoted : quoted? (relay width false (taken ++ left)) = some (taken', relay width false left)
  value : ∀ suffix, stringValue? (taken ++ suffix) = some ⟨q, units, suffix⟩
  value' : ∀ suffix, stringValue? (taken' ++ suffix) = some ⟨q, units', suffix⟩
  same_iff : ∀ suffix, '\n' ∉ suffix → (units' = units ↔ isUnbroken (taken ++ suffix) = true)

theorem CookedFront.relaid {front body : List Char} (opens : CookedFront front q)
    (positive : 0 < width) (closes : cookedString q .body body = some (body, [])) :
    StringRelaid width left (front ++ body) (front ++ relay width false body) q
      (cookedValue q .body body) (cookedValue q .body (relay width false body)) := by
  have run := (run_of_cookedString closes).1 rfl
  have closes' := (run.relay (.inl rfl) width false undropped).1.cookedString
  obtain ⟨-, -, again⟩ := closed_cookedString _ _ _ _ _ closes'
  refine ⟨?_, fun suffix => ?_, fun suffix => ?_, fun suffix _ => ?_⟩
  · rw [List.append_assoc, relay_front opens.unbroken.1 opens.unbroken.2,
      relay_append run.endsVisibly undropped, opens.quoted?, again]
    rfl
  · rw [List.append_assoc, opens.stringValue?, cookedLiteral?_append closes]
  · rw [List.append_assoc, opens.stringValue?, cookedLiteral?_append closes']
  · rw [List.append_assoc, opens.isUnbroken, (run.append suffix).2]
    exact (run.drift positive false undropped).same_iff

theorem RawFront.exists_relaid {front body : List Char} {n : Nat} (opens : RawFront front q)
    (positive : 0 < width) (few : n ≤ 255)
    (closes : rawString q (List.replicate n '#') body = some (body, [])) :
    ∃ units units', StringRelaid width left (front ++ (List.replicate n '#' ++ '"' :: body))
      (front ++ (List.replicate n '#' ++ '"' :: relay width false body)) q units units' := by
  have closes' : rawString q (List.replicate n '#') (relay width false body) =
      some (relay width false body, []) := rawString_relay closes undropped
  obtain ⟨content, rfl⟩ := rawString_ends closes
  obtain ⟨content', split⟩ := rawString_ends closes'
  have visible : EndsVisibly (content ++ '"' :: List.replicate n '#') :=
    endsVisibly_append _ (endsVisibly_hashes n)
  obtain ⟨-, -, again⟩ := closed_rawString _ _ _ _ _ closes'
  have hashed : '\n' ∉ List.replicate n '#' ∧ '\r' ∉ List.replicate n '#' := by
    simp [List.mem_replicate]
  refine ⟨rawValue q content, rawValue q content', ?_, fun suffix => ?_, fun suffix => ?_,
    fun suffix unfed => ?_⟩
  · rw [List.append_assoc, relay_front opens.unbroken.1 opens.unbroken.2, List.append_assoc,
      relay_front hashed.1 hashed.2, List.cons_append,
      relay_cons (by decide) (absurd · (by decide)),
      relay_append visible undropped, opens.quoted?, StringLiteral.rawFromHashes_append,
      if_pos few, again]
    simp [Scanned.prepend]
  · rw [List.append_assoc, opens.stringValue?, rawLiteral?_append few closes]
  · rw [split] at closes' ⊢
    rw [List.append_assoc, opens.stringValue?, rawLiteral?_append few closes']
  · rw [rawValue_relay positive visible split, List.append_assoc, opens.isUnbroken,
      decide_eq_true_eq]
    simp [opens.unbroken.1, hashed.1, unfed]

theorem quoted?_relay (positive : 0 < width) (found : quoted? cs = some (taken, left)) :
    ∃ taken' q units units', StringRelaid width left taken taken' q units units' := by
  rcases quoted?_cases found with
    ⟨front, q, body, opens, rfl, closes⟩ | ⟨front, q, n, body, opens, few, rfl, closes⟩
  · exact ⟨_, q, _, _, opens.relaid positive closes⟩
  · obtain ⟨units, units', relaid⟩ := opens.exists_relaid positive few closes
    exact ⟨_, q, units, units', relaid⟩

/-! ### Characters -/

theorem codePoint_unfed {state : StringScan}
    (braced : state = .codePointOpen ∨ ∃ digits value, state = .codePoint digits value)
    (found : codePoint state cs = some (taken, left)) : '\n' ∉ taken := by
  induction cs generalizing state taken with
  | nil => cases found
  | cons c rest ih =>
    have unfed {next : StringScan} (stepped : state.next .text c = some next) : '\n' ≠ c := by
      rintro rfl
      rcases braced with rfl | ⟨digits, value, rfl⟩
      · cases stepped
      · simp [StringScan.next, hexValue?] at stepped
    rw [codePoint] at found
    split at found
    next closed =>
      cases found
      simpa using unfed closed
    next next goesOn stepped =>
      obtain ⟨s, others, same⟩ := Option.map_eq_some_iff.mp found
      cases same
      have braced' : next = .codePointOpen ∨ ∃ digits value, next = .codePoint digits value := by
        rcases braced with rfl | ⟨digits, value, rfl⟩
        · obtain ⟨-, same⟩ := Option.ite_none_right_eq_some.mp stepped
          exact .inr ⟨0, 0, (Option.some.inj same).symm⟩
        · rw [StringScan.next] at stepped
          split at stepped
          · exact .inr ⟨_, _, (Option.some.inj stepped).symm⟩
          · split at stepped
            · obtain ⟨-, same⟩ := Option.ite_none_right_eq_some.mp stepped
              exact absurd (Option.some.inj same).symm goesOn
            · split at stepped
              · obtain ⟨-, same⟩ := Option.ite_none_left_eq_some.mp stepped
                exact .inr ⟨_, _, (Option.some.inj same).symm⟩
              · cases stepped
      exact List.not_mem_cons_of_ne_of_not_mem (unfed stepped) (ih braced' others)
    next => cases found

theorem hexValue?_ne_feed {n : Nat} (hex : hexValue? c = some n) : '\n' ≠ c := by
  rintro rfl
  cases hex

theorem escapes_ne_feed (escaped : q.escapes c = true) : '\n' ≠ c := by
  rintro rfl
  cases q <;> cases escaped

theorem quotedChar?_fed (found : quotedChar? cs = some (taken, left)) (fed : '\n' ∈ taken) :
    taken = ['\n'] := by
  unfold quotedChar? at found
  split at found
  next a b rest =>
    split at found
    next hex hex' =>
      obtain ⟨-, found⟩ := Option.ite_none_right_eq_some.mp found
      cases found
      simp [hexValue?_ne_feed hex, hexValue?_ne_feed hex'] at fed
    next => cases found
  next rest =>
    obtain ⟨s, others, same⟩ := Option.map_eq_some_iff.mp found
    cases same
    have unfed := codePoint_unfed (.inl rfl) others
    simp [unfed] at fed
  next =>
    obtain ⟨escaped, found⟩ := Option.ite_none_right_eq_some.mp found
    cases found
    simp [escapes_ne_feed escaped] at fed
  next => cases found
  next =>
    cases found
    rw [List.mem_singleton.mp fed]
  next => cases found

theorem quotedByte?_fed (found : quotedByte? cs = some (taken, left)) (fed : '\n' ∈ taken) :
    taken = ['\n'] := by
  unfold quotedByte? at found
  split at found
  next a b rest =>
    split at found
    next hex hex' =>
      cases found
      simp [hexValue?_ne_feed hex, hexValue?_ne_feed hex'] at fed
    next => cases found
  next =>
    obtain ⟨escaped, found⟩ := Option.ite_none_right_eq_some.mp found
    cases found
    simp [escapes_ne_feed escaped] at fed
  next => cases found
  next =>
    obtain ⟨-, found⟩ := Option.ite_none_right_eq_some.mp found
    cases found
    rw [List.mem_singleton.mp fed]
  next => cases found

theorem closeQuote_eq_some {s : Scanned} (closed : closeQuote s = some (taken, left)) :
    taken = s.1 ++ ['\''] := by
  unfold closeQuote at closed
  split at closed
  next =>
    cases closed
    rfl
  next => cases closed

/-- What is in front of a character. -/
inductive CharFront : List Char → Prop
  | char : CharFront ['\'']
  | byte : CharFront ['b', '\'']

theorem CharFront.isUnbroken {front : List Char} (opens : CharFront front) (cs : List Char) :
    isUnbroken (front ++ cs) = decide ('\n' ∉ front ++ cs) := by
  cases opens <;> rfl

/-- A character literal ends with its quote. What spans lines is a line feed. -/
theorem character?_eq_some (found : character? cs = some (taken, left)) :
    EndsVisibly taken ∧ ∃ front more, CharFront front ∧ taken = front ++ more ∧
      ('\n' ∈ taken → more = ['\n', '\'']) := by
  have closes {front : List Char} {scanned : Option Scanned} (opens : CharFront front)
      (single : ∀ s ∈ scanned, '\n' ∈ s.1 → s.1 = ['\n'])
      (found : (scanned.bind closeQuote).map (Scanned.prepend front) = some (taken, left)) :
      EndsVisibly taken ∧ ∃ front more, CharFront front ∧ taken = front ++ more ∧
        ('\n' ∈ taken → more = ['\n', '\'']) := by
    obtain ⟨⟨more, rest⟩, closed, same⟩ := Option.map_eq_some_iff.mp found
    obtain ⟨s, inner, closed⟩ := Option.bind_eq_some_iff.mp closed
    cases same
    obtain rfl := closeQuote_eq_some closed
    have visible : EndsVisibly (front ++ (s.1 ++ ['\''])) :=
      endsVisibly_append front (endsVisibly_append s.1 (endsVisibly_singleton.mpr (by decide)))
    refine ⟨visible,
      front, _, opens, rfl, fun fed => ?_⟩
    have unfed : '\n' ∉ front := by cases opens <;> decide
    simp only [List.mem_append, unfed, List.mem_singleton, false_or] at fed
    rcases fed with fed | quote
    · rw [single s inner fed]
      rfl
    · cases quote
  unfold character? at found
  split at found
  next => exact closes .byte (fun s scanned => quotedByte?_fed scanned) found
  next => exact closes .char (fun s scanned => quotedChar?_fed scanned) found
  next => cases found

/-- Blanks behind a quote and a line feed leave no character. -/
theorem lexemeStep_spanned {front : List Char} (opens : CharFront front) (positive : 0 < width)
    (left : List Char) :
    lexemeStep (relay width false (front ++ ['\n', '\'']) ++ left) = none := by
  obtain ⟨n, rfl⟩ := Nat.exists_eq_succ_of_ne_zero (Nat.ne_of_gt positive)
  cases opens <;> rfl

/-! ### Tokens -/

/-- A lexeme, and what it is with its lines at a new depth. -/
def Kept (lexeme lexeme' : Lexeme) : Prop :=
  lexeme'.meaning = lexeme.meaning ↔ lexeme.isUnbroken = true

theorem kept_of_unbroken {lexeme : Lexeme} (unbroken : lexeme.isUnbroken = true) :
    Kept lexeme lexeme := iff_of_true rfl unbroken

theorem unfed_of_bounded {scan : List Char → Option Scanned} (bounded : Bounded scan)
    (splits : Splits scan) (found : scan cs = some (taken, left)) : '\n' ∉ taken := by
  obtain ⟨line, after, rfl, isLine⟩ := exists_line cs
  rw [bounded line after isLine.stops] at found
  obtain ⟨s, scanned, same⟩ := Option.map_eq_some_iff.mp found
  cases same
  intro fed
  refine isLine.unfed ?_
  rw [splits line _ _ scanned]
  exact List.mem_append_left _ fed

/-- A literal takes the suffix that comes behind it. -/
theorem exists_suffix (left : List Char) : ∃ suffix rest, '\n' ∉ suffix ∧
    ∀ taken, withSuffix (taken, left) = (taken ++ suffix, rest) := by
  cases found : word? left with
  | none => exact ⟨[], left, by simp, fun taken => by simp [withSuffix, found]⟩
  | some word =>
    exact ⟨word.1, word.2, unfed_of_bounded bounded_word? splits_word? found,
      fun taken => by simp [withSuffix, found]⟩

theorem isUnbroken_of_unfed (other : ∀ c ∈ cs.head?, c ≠ '"' ∧ c ∉ ['b', 'c']) (unfed : '\n' ∉ cs) :
    isUnbroken cs = true := by
  unfold isUnbroken
  split <;> simp_all

theorem isPunct_of_punct? {token : Token} (found : punct? cs = some (token, rest)) :
    ∃ mark joint, token = .punct mark joint := by
  obtain ⟨c, marked, -⟩ := opens_of_punct? found
  by_cases quote : c = '\''
  · subst quote
    rw [punct?_of_quote marked, Option.bind_eq_some_iff] at found
    obtain ⟨_, _, found⟩ := found
    obtain ⟨-, found⟩ := Option.ite_none_left_eq_some.mp found
    cases found
    exact ⟨_, _, rfl⟩
  · rw [punct?_of_mark marked quote] at found
    cases found
    exact ⟨_, _, rfl⟩

theorem head?_number (found : number? cs = some (taken, left)) :
    ∀ c ∈ taken.head?, isDecimal c = true := by
  intro c first
  obtain ⟨more, rfl⟩ := List.head?_eq_some_iff.mp first
  obtain ⟨d, first', decimal⟩ := opens_of_number? found
  rw [splits_number? _ _ _ found] at first'
  rwa [← Option.some.inj first'] at decimal

theorem leaf_relay (positive : 0 < width) {token : Token} (leaf : Leaf cs token rest) :
    (∃ token', leaf? (relay width false cs) = some (token', relay width false rest) ∧
      Kept (.token token) (.token token')) ∨
    lexemeStep (relay width false cs) = none ∧ (Lexeme.token token).isUnbroken = false := by
  cases leaf with
  | @string s found =>
    obtain ⟨taken, left⟩ := s
    obtain ⟨taken', q, units, units', relaid⟩ := quoted?_relay positive found
    obtain ⟨-, rfl, -⟩ := closed_quoted? _ _ _ found
    obtain ⟨suffix, rest, unfed, suffixed⟩ := exists_suffix left
    refine .inl ⟨.literal (String.ofList (taken' ++ suffix)), ?_, ?_⟩
    · rw [leaf?_iff.mpr (.string relaid.quoted), withSuffix_relay, suffixed, suffixed]
    · simp [Kept, Lexeme.meaning, Lexeme.isUnbroken, suffixed, relaid.value, relaid.value',
        relaid.same_iff suffix unfed]
  | @character s found =>
    obtain ⟨taken, left⟩ := s
    obtain ⟨suffix, rest, unfed, suffixed⟩ := exists_suffix left
    obtain ⟨visible, front, more, opens, rfl, spans⟩ := character?_eq_some found
    obtain ⟨-, rfl, again⟩ := closed_character? _ _ _ found
    rw [relay_append visible undropped]
    simp only [suffixed]
    have unbroken : (Lexeme.token (.literal (String.ofList (front ++ more ++ suffix)))).isUnbroken =
        decide ('\n' ∉ front ++ more) := by
      simp [Lexeme.isUnbroken, opens.isUnbroken, unfed]
    by_cases fed : '\n' ∈ front ++ more
    · refine .inr ⟨?_, by rw [unbroken, decide_eq_false (not_not_intro fed)]⟩
      rw [spans fed, lexemeStep_spanned opens positive]
    · refine .inl ⟨.literal (String.ofList (front ++ more ++ suffix)), ?_,
        kept_of_unbroken (by rw [unbroken, decide_eq_true fed])⟩
      rw [relay_of_unfed fed, leaf?_iff.mpr (.character (again _)), withSuffix_relay, suffixed]
  | @number taken left found =>
    refine .inl ⟨_, leaf?_iff.mpr (.number ?_), kept_of_unbroken (isUnbroken_of_unfed ?_ ?_)⟩
    · rw [bounded_number?.relay splits_number?, found]
      rfl
    · have known : ∀ c ∈ digits, c ≠ '"' ∧ c ∉ ['b', 'c'] := Chars.forall_mem_of_all (by decide)
      rw [String.toList_ofList]
      exact fun c first => known c (mem_digits_of_isDecimal (head?_number found c first))
    · rw [String.toList_ofList]
      exact unfed_of_bounded bounded_number? splits_number? found
  | mark found =>
    obtain ⟨mark, joint, rfl⟩ := isPunct_of_punct? found
    exact .inl ⟨_, leaf?_iff.mpr (.mark (punct?_relay width found)), kept_of_unbroken rfl⟩
  | name found =>
    refine .inl ⟨_, leaf?_iff.mpr (.name ?_), kept_of_unbroken rfl⟩
    rw [bounded_ident?.relay splits_ident?, found]
    rfl

/-! ### Comments -/

theorem head?_relay (width : Nat) (cs : List Char) {d : Char} (other : d ≠ '\n' ∧ d ≠ '\r') :
    (relay width false cs).head? = some d ↔ cs.head? = some d := by
  have fed (rest : List Char) : (relay width false ('\n' :: rest)).head? ≠ some d := by
    rw [relay_feed]
    split
    · simp
    · simpa using Ne.symm other.1
  cases cs with
  | nil => rfl
  | cons c rest =>
    by_cases feed : c = '\n'
    · subst feed
      exact iff_of_false (fed rest) (by simpa using Ne.symm other.1)
    · by_cases returned : c = '\r' ∧ rest.head? = some '\n'
      · obtain ⟨rfl, first⟩ := returned
        obtain ⟨rest, rfl⟩ := List.head?_eq_some_iff.mp first
        rw [relay_return]
        exact iff_of_false (fed rest) (by simpa using Ne.symm other.2)
      · rw [relay_cons feed (not_and.mp returned)]
        rfl

theorem isDocLine_iff (body : List Char) :
    isDocLine body = true ↔
      body.head? = some '!' ∨ body.head? = some '/' ∧ body.tail.head? ≠ some '/' := by
  unfold isDocLine
  split <;> simp_all [List.head?_eq_some_iff]

theorem isDocBlock_iff (body : List Char) :
    isDocBlock body = true ↔ body.head? = some '!' ∨
      body.head? = some '*' ∧ body.tail.head? ≠ some '*' ∧ body.tail.head? ≠ some '/' := by
  unfold isDocBlock
  split <;> simp_all [List.head?_eq_some_iff]

theorem tail_relay {d : Char} (other : d ≠ '\n' ∧ d ≠ '\r') (first : cs.head? = some d) :
    relay width false cs = d :: relay width false cs.tail := by
  obtain ⟨rest, rfl⟩ := List.head?_eq_some_iff.mp first
  rw [relay_cons other.1 (absurd · other.2)]
  rfl

theorem isDocLine_relay (width : Nat) (body : List Char) :
    isDocLine (relay width false body) = isDocLine body := by
  rw [Bool.eq_iff_iff, isDocLine_iff, isDocLine_iff, head?_relay _ _ (by decide),
    head?_relay _ _ (by decide)]
  refine or_congr_right (and_congr_right fun slash => ?_)
  rw [tail_relay (by decide) slash, List.tail_cons, Ne, head?_relay _ _ (by decide)]

theorem isDocBlock_relay (width : Nat) (body : List Char) :
    isDocBlock (relay width false body) = isDocBlock body := by
  rw [Bool.eq_iff_iff, isDocBlock_iff, isDocBlock_iff, head?_relay _ _ (by decide),
    head?_relay _ _ (by decide)]
  refine or_congr_right (and_congr_right fun star => ?_)
  rw [tail_relay (by decide) star, List.tail_cons, Ne, Ne, head?_relay _ _ (by decide),
    head?_relay _ _ (by decide)]

theorem toLineEnd_append (unfed : '\n' ∉ taken) (ends : rest = [] ∨ ∃ more, rest = '\n' :: more) :
    (toLineEnd (taken ++ rest)).2 = rest ∧
      ('\r' ∉ taken → (toLineEnd (taken ++ rest)).1 = taken) := by
  induction taken with
  | nil => rcases ends with rfl | ⟨more, rfl⟩ <;> exact ⟨rfl, fun _ => rfl⟩
  | cons c taken ih =>
    rw [List.mem_cons, not_or] at unfed
    obtain ⟨left, took⟩ := ih unfed.2
    by_cases long : c = '\r' ∧ (taken ++ rest).head? = some '\n'
    · obtain ⟨rfl, first⟩ := long
      cases taken with
      | nil =>
        obtain ⟨more, rfl⟩ := List.head?_eq_some_iff.mp first
        exact ⟨rfl, fun unreturned => absurd List.mem_cons_self unreturned⟩
      | cons d taken => exact absurd (Option.some.inj first ▸ List.mem_cons_self) unfed.2
    · rw [List.cons_append, toLineEnd]
      · refine ⟨left, fun unreturned => ?_⟩
        rw [Scanned.cons, took (List.not_mem_of_not_mem_cons unreturned)]
      · rintro rfl
        exact unfed.1 rfl
      · intro more returned same
        exact long ⟨returned, by rw [same]; rfl⟩

theorem returnsPaired_of_unfed (unfed : '\n' ∉ cs) (paired : returnsPaired cs = true) :
    '\r' ∉ cs := by
  induction cs with
  | nil => simp
  | cons c cs ih =>
    rw [List.mem_cons, not_or] at unfed ⊢
    by_cases returned : c = '\r'
    · subst returned
      rw [StringLiteral.returnsPaired_return, Bool.and_eq_true, decide_eq_true_eq] at paired
      exact absurd (List.mem_of_mem_head? paired.1) unfed.2
    · rw [StringLiteral.returnsPaired_cons returned] at paired
      exact ⟨Ne.symm returned, ih unfed.2 paired⟩

theorem toLineEnd_relay (width : Nat) (cs : List Char) :
    (toLineEnd (relay width false cs)).2 = relay width false (toLineEnd cs).2 ∧
      (returnsPaired (toLineEnd cs).1 = true →
        (toLineEnd (relay width false cs)).1 = (toLineEnd cs).1) := by
  obtain ⟨after, split, line, same⟩ := line_toLineEnd cs
  obtain ⟨left, took⟩ := toLineEnd_append line.unfed (line.relay_ends width)
  rw [← line.relay_append, ← split] at left took
  exact ⟨left.trans (same width), fun paired =>
    took (returnsPaired_of_unfed line.unfed paired)⟩

/-- A comment up to the end of its line is read as before. -/
theorem lexemeStep_line_relay (width : Nat) {body : List Char} {read : List Lexeme}
    (front : lexemeStep ('/' :: '/' :: body) = some (read, rest)) :
    lexemeStep (relay width false ('/' :: '/' :: body)) = some (read, relay width false rest) ∧
      ∀ lexeme ∈ read, lexeme.isUnbroken = true := by
  rw [relay_cons (by decide) (absurd · (by decide)), relay_cons (by decide) (absurd · (by decide)),
    lexemeStep_line, isDocLine_relay]
  rw [lexemeStep_line] at front
  split at front
  next documents =>
    obtain ⟨paired, front⟩ := Option.ite_none_right_eq_some.mp front
    cases front
    have mark : ∃ d, (d ≠ '\n' ∧ d ≠ '\r') ∧ body.head? = some d := by
      rcases (isDocLine_iff body).mp documents with inner | ⟨outer, -⟩
      · exact ⟨'!', by decide, inner⟩
      · exact ⟨'/', by decide, outer⟩
    obtain ⟨d, other, first⟩ := mark
    obtain ⟨left, took⟩ := toLineEnd_relay width body.tail
    rw [if_pos documents, tail_relay other first, List.tail_cons, left, took paired,
      List.head?_cons, ← first, documented, if_pos paired]
    obtain ⟨after, -, line, -⟩ := line_toLineEnd body.tail
    refine ⟨rfl, fun lexeme member => ?_⟩
    rw [List.mem_singleton.mp member]
    exact decide_eq_true line.unfed
  next plain =>
    cases front
    rw [if_neg plain, (toLineEnd_relay width body).1]
    exact ⟨rfl, List.forall_mem_nil _⟩

theorem blockComment_cons {depth : Nat} (opens : c = '/' → cs.head? ≠ some '*')
    (closes : c = '*' → cs.head? ≠ some '/') :
    blockComment depth (c :: cs) = (blockComment depth cs).map (Scanned.cons c) := by
  rw [blockComment]
  · rintro rest rfl rfl
    exact opens rfl rfl
  · rintro rest rfl rfl
    exact closes rfl rfl

theorem blockComment_blanks (depth width : Nat) (cs : List Char) :
    blockComment depth (List.replicate width ' ' ++ cs) =
      (blockComment depth cs).map (Scanned.prepend (List.replicate width ' ')) := by
  induction width with
  | zero =>
    rw [List.replicate_zero, List.nil_append]
    cases blockComment depth cs <;> rfl
  | succ width ih =>
    rw [List.replicate_succ, List.cons_append,
      blockComment_cons (absurd · (by decide)) (absurd · (by decide)), ih, Option.map_map]
    rfl

theorem ends_of_prepend {front ending : List Char} {scanned : Option Scanned}
    (found : scanned.map (Scanned.prepend front) = some (taken, left))
    (ends : ∀ more, scanned = some (more, left) → ∃ content, more = content ++ ending) :
    ∃ content, taken = content ++ ending := by
  obtain ⟨⟨more, rest⟩, scanned, same⟩ := Option.map_eq_some_iff.mp found
  cases same
  obtain ⟨content, rfl⟩ := ends more scanned
  exact ⟨front ++ content, by simp⟩

theorem blockComment_ends {depth : Nat} (found : blockComment depth cs = some (taken, left)) :
    ∃ content, taken = content ++ ['*', '/'] := by
  fun_induction blockComment depth cs generalizing taken with
  | case1 => cases found
  | case2 depth rest ih => exact ends_of_prepend found fun _ => ih
  | case3 depth rest outermost =>
    cases found
    exact ⟨[], rfl⟩
  | case4 depth rest nested ih => exact ends_of_prepend found fun _ => ih
  | case5 depth c rest opens closes ih =>
    have found : (blockComment depth rest).map (Scanned.prepend [c]) = some (taken, left) := found
    exact ends_of_prepend found fun _ => ih

theorem of_map_prepend {front : List Char} {scanned : Option Scanned}
    (found : scanned.map (Scanned.prepend front) = some (front ++ cs, [])) :
    scanned = some (cs, []) := by
  obtain ⟨⟨more, rest⟩, rfl, same⟩ := Option.map_eq_some_iff.mp found
  simp only [Scanned.prepend, Prod.mk.injEq, List.append_cancel_left_eq] at same
  rw [same.1, same.2]

theorem blockComment_relay {depth : Nat} {dropping : Bool}
    (closes : blockComment depth cs = some (cs, []))
    (blank : dropping = true → blankLine cs = true) :
    blockComment depth (relay width dropping cs) = some (relay width dropping cs, []) := by
  fun_induction blockComment depth cs generalizing dropping with
  | case1 => cases closes
  | case2 depth rest ih =>
    cases eq_false_of_visible (by decide) blank
    rw [relay_cons (by decide) (by simp), relay_cons (by decide) (by simp), blockComment,
      ih (of_map_prepend closes) undropped]
    rfl
  | case3 depth rest outermost =>
    cases eq_false_of_visible (by decide) blank
    cases closes
    rw [relay_cons (by decide) (by simp), relay_cons (by decide) (by simp), blockComment,
      if_pos outermost]
    rfl
  | case4 depth rest nested ih =>
    cases eq_false_of_visible (by decide) blank
    rw [relay_cons (by decide) (by simp), relay_cons (by decide) (by simp), blockComment,
      if_neg nested, ih (of_map_prepend closes) undropped]
    rfl
  | case5 depth c rest opens closes' ih =>
    have inner := of_map_cons closes
    have written : rest ≠ [] := by
      rintro rfl
      cases inner
    by_cases fed : c = '\n'
    · subst fed
      rcases relay_feed_cases width dropping written with ⟨blankly, dropped⟩ | indented
      · rw [dropped, blockComment_cons (by simp) (by simp), ih inner fun _ => blankly]
        rfl
      · rw [indented, blockComment_cons (by simp) (by simp), blockComment_blanks,
          ih inner undropped]
        rfl
    · rcases relay_cases width fed blank with ⟨goes, later⟩ | ⟨rfl, -, stays⟩
      · rw [goes]
        exact ih inner later
      · rw [stays, blockComment_cons, ih inner undropped]
        · rfl
        · intro slash star
          rw [head?_relay _ _ (by decide)] at star
          obtain ⟨more, rfl⟩ := List.head?_eq_some_iff.mp star
          exact opens more slash rfl
        · intro star slash
          rw [head?_relay _ _ (by decide)] at slash
          obtain ⟨more, rfl⟩ := List.head?_eq_some_iff.mp slash
          exact closes' more star rfl

/-- The text of a comment stands between a mark that tells what it documents and the last two. -/
theorem exists_blockText {body : List Char} (documents : isDocBlock body = true)
    (closed : blockComment 0 ('/' :: '*' :: body) = some (taken, left)) :
    ∃ mark, (mark ≠ '\n' ∧ mark ≠ '\r') ∧ body.head? = some mark ∧
      taken = '/' :: '*' :: mark :: (blockText taken ++ ['*', '/']) := by
  rw [blockComment] at closed
  obtain ⟨⟨more, rest⟩, inner, same⟩ := Option.map_eq_some_iff.mp closed
  cases same
  obtain ⟨content, rfl⟩ := blockComment_ends inner
  obtain ⟨-, rfl, -⟩ := closed_blockComment _ _ _ _ inner
  have mark : ∃ mark, (mark ≠ '\n' ∧ mark ≠ '\r') ∧
      (content ++ ['*', '/'] ++ rest).head? = some mark ∧ content ≠ [] := by
    rcases (isDocBlock_iff _).mp documents with bang | ⟨star, -, unclosed⟩
    · refine ⟨'!', by decide, bang, ?_⟩
      rintro rfl
      cases bang
    · refine ⟨'*', by decide, star, ?_⟩
      rintro rfl
      exact unclosed rfl
  obtain ⟨mark, other, first, written⟩ := mark
  obtain ⟨d, text, rfl⟩ := List.exists_cons_of_ne_nil written
  cases first
  exact ⟨mark, other, rfl, by simp [blockText]⟩

/-- A comment between marks ends where it did. -/
theorem blockComment_relaid (width : Nat) {body : List Char}
    (closed : blockComment 0 ('/' :: '*' :: body) = some (taken, left)) :
    blockComment 0 ('/' :: '*' :: relay width false body) =
      some (relay width false taken, relay width false left) := by
  have slash : relay width false ('/' :: '*' :: body) = '/' :: '*' :: relay width false body := by
    rw [relay_cons (by decide) (absurd · (by decide)),
      relay_cons (by decide) (absurd · (by decide))]
  obtain ⟨-, split, again⟩ := closed_blockComment 0 _ _ _ closed
  obtain ⟨content, ends⟩ := blockComment_ends closed
  have visible : EndsVisibly taken := by
    rw [ends]
    exact endsVisibly_append content ⟨'/', rfl, by decide⟩
  have alone : blockComment 0 (relay width false taken) = some (relay width false taken, []) :=
    blockComment_relay (by simpa using again []) undropped
  obtain ⟨-, -, again'⟩ := closed_blockComment 0 _ _ _ alone
  rw [← slash, split, relay_append visible undropped, again']

/-- The text of a comment is put at the new depth with the last two marks. -/
theorem blockText_relay (width : Nat) {body : List Char} (documents : isDocBlock body = true)
    (closed : blockComment 0 ('/' :: '*' :: body) = some (taken, left)) :
    relay width false (blockText taken ++ ['*', '/']) =
      blockText (relay width false taken) ++ ['*', '/'] := by
  obtain ⟨mark, other, -, shape⟩ := exists_blockText documents closed
  obtain ⟨mark', -, -, shape'⟩ :=
    exists_blockText (by rwa [isDocBlock_relay]) (blockComment_relaid width closed)
  have relayed := congrArg (relay width false) shape
  rw [relay_cons (by decide) (absurd · (by decide)),
    relay_cons (by decide) (absurd · (by decide)), relay_cons other.1 (absurd · other.2),
    shape'] at relayed
  simp only [List.cons.injEq, true_and] at relayed
  exact relayed.2.symm

/-- A comment between marks is read as before if it documents nothing or stands on one line. -/
theorem lexemeStep_block_relay (positive : 0 < width) {body : List Char} {read : List Lexeme}
    (front : lexemeStep ('/' :: '*' :: body) = some (read, rest)) :
    (∃ read', lexemeStep (relay width false ('/' :: '*' :: body)) =
        some (read', relay width false rest) ∧ List.Forall₂ Kept read read') ∨
    lexemeStep (relay width false ('/' :: '*' :: body)) = none ∧
      ∃ lexeme ∈ read, lexeme.isUnbroken = false := by
  rw [lexemeStep_block] at front
  obtain ⟨⟨taken, left⟩, closed, front⟩ := Option.bind_eq_some_iff.mp front
  rw [relay_cons (by decide) (absurd · (by decide)), relay_cons (by decide) (absurd · (by decide)),
    lexemeStep_block, isDocBlock_relay, blockComment_relaid width closed, Option.bind_some]
  simp only at front ⊢
  split at front
  next documents =>
    obtain ⟨paired, front⟩ := Option.ite_none_right_eq_some.mp front
    cases front
    have inner : decide ((relay width false body).head? = some '!') =
        decide (body.head? = some '!') := decide_eq_decide.mpr (head?_relay _ _ (by decide))
    have text := blockText_relay width documents closed
    rw [if_pos documents, inner, documented]
    by_cases fed : '\n' ∈ blockText taken
    · have apart : Apart '\n' ' ' (blockText taken ++ ['*', '/'])
          (blockText (relay width false taken) ++ ['*', '/']) := by
        rw [← text]
        exact relay_apart positive (endsVisibly_append _ ⟨'/', rfl, by decide⟩)
          (List.mem_append_left _ fed) undropped
      have other : blockText (relay width false taken) ≠ blockText taken := fun same =>
        apart.ne (by decide) (by rw [same])
      split
      · exact .inl ⟨_, rfl,
          .cons (by simp [Kept, Lexeme.meaning, Lexeme.isUnbroken, other, fed]) .nil⟩
      · exact .inr ⟨rfl, _, List.mem_singleton_self _, by simp [Lexeme.isUnbroken, fed]⟩
    · have same : blockText (relay width false taken) = blockText taken := by
        rw [relay_of_unfed (by simp [fed])] at text
        exact (List.append_cancel_right text).symm
      rw [same, if_pos paired]
      exact .inl ⟨_, rfl, .cons (kept_of_unbroken (by simp [Lexeme.isUnbroken, fed])) .nil⟩
  next plain =>
    cases front
    rw [if_neg plain]
    exact .inl ⟨[], rfl, .nil⟩

/-! ### Whole texts -/

theorem Leaf.lexemeStep {token : Token} (leaf : Leaf cs token rest) :
    lexemeStep cs = some ([.token token], rest) := by
  obtain ⟨c, more, rfl, -, -, plain⟩ := leaf.visible
  have uncommented : (c :: more).head? = some '/' →
      (c :: more).tail.head? ≠ some '/' ∧ (c :: more).tail.head? ≠ some '*' :=
    fun first => plain (Option.some.inj first)
  rw [lexemeStep_of_uncommented uncommented, leaf.step]
  rfl

theorem lexemeStep_relay (positive : 0 < width) {read : List Lexeme}
    (front : lexemeStep cs = some (read, rest)) (visible : ∀ c ∈ cs.head?, isSpace c = false) :
    (∃ read', lexemeStep (relay width false cs) = some (read', relay width false rest) ∧
      List.Forall₂ Kept read read') ∨
    lexemeStep (relay width false cs) = none ∧ ∃ lexeme ∈ read, lexeme.isUnbroken = false := by
  have stepped := step_eq_some_iff.mpr ⟨read, front, rfl⟩
  generalize read.flatMap Lexeme.tokens = tokens at stepped
  cases stepped_iff.mp stepped with
  | @blank c _ space =>
    rw [visible c rfl] at space
    cases space
  | line =>
    obtain ⟨same, unbroken⟩ := lexemeStep_line_relay width front
    exact .inl ⟨read, same,
      List.forall₂_same.mpr fun lexeme member => kept_of_unbroken (unbroken lexeme member)⟩
  | block => exact lexemeStep_block_relay positive front
  | failed =>
    have opened : ∀ rest, (failedLiteral.toList ++ rest).head? ≠ some '/' := fun rest => by
      rw [show failedLiteral.toList = '(' :: "/*ERROR*/)".toList by decide]
      simp
    rw [lexemeStep_of_uncommented (absurd · (opened _)), step_failed] at front
    cases front
    refine .inl ⟨[.token (.literal failedLiteral)], ?_, .cons (kept_of_unbroken (by decide)) .nil⟩
    rw [relay_front (by decide +kernel) (by decide +kernel),
      lexemeStep_of_uncommented (absurd · (opened _)), step_failed]
    rfl
  | @bracket c _ token found other =>
    have known : ∀ c ∈ ['/', '\n', '\r'], bracket? c = none := Chars.forall_mem_of_all (by decide)
    have listed : c ∉ ['/', '\n', '\r'] := by
      intro member
      rw [known c member] at found
      cases found
    simp only [List.mem_cons, List.not_mem_nil, or_false, not_or] at listed
    rw [lexemeStep_of_uncommented (by simp [listed]), stepped] at front
    cases front
    have same : relay width false (c :: rest) = c :: relay width false rest :=
      relay_cons listed.2.1 (absurd · listed.2.2)
    refine .inl ⟨[.token token], ?_, .cons (kept_of_unbroken ?_) .nil⟩
    · have other' := failed?_relay width other
      rw [same] at other' ⊢
      rw [lexemeStep_of_uncommented (by simp [listed]), step_bracket_of_failed? found other']
      rfl
    · unfold bracket? at found
      split at found <;> cases found <;> rfl
  | leaf leaf =>
    rw [leaf.lexemeStep] at front
    cases front
    rcases leaf_relay positive leaf with ⟨token', found, kept⟩ | ⟨none, broken⟩
    · exact .inl ⟨[.token token'], (leaf?_iff.mp found).lexemeStep, .cons kept .nil⟩
    · exact .inr ⟨none, _, List.mem_singleton_self _, broken⟩

theorem lexemeStep_space (space : isSpace c = true) (rest : List Char) :
    lexemeStep (c :: rest) = some ([], rest) := by
  have slash : c ≠ '/' := by
    rintro rfl
    cases space
  rw [lexemeStep_of_uncommented (by simp [slash]), stepped_iff.mpr (.blank space)]
  rfl

theorem reads_space {read : List Lexeme} (space : isSpace c = true) :
    Reads (c :: cs) read ↔ Reads cs read := by
  rw [Reads.of_front (lexemeStep_space space cs)]
  simp

theorem reads_blanks {read : List Lexeme} (width : Nat) :
    Reads (List.replicate width ' ' ++ cs) read ↔ Reads cs read := by
  induction width with
  | zero => rfl
  | succ width ih => rw [List.replicate_succ, List.cons_append, reads_space (by decide), ih]

theorem isSpace_of_isBlank (blank : Chars.isBlank c = true) : isSpace c = true := by
  rw [isSpace, blank]
  rfl

/-- What becomes of a text: its lexemes, each with its lines at a new depth, or nothing that can be
read, which shows in a lexeme that spans lines. -/
def Carries (read : List Lexeme) (cs : List Char) : Prop :=
  (∃ read', Reads cs read' ∧ List.Forall₂ Kept read read') ∨
    (¬ ∃ read', Reads cs read') ∧ ∃ lexeme ∈ read, lexeme.isUnbroken = false

theorem Carries.of_space {read : List Lexeme} (space : isSpace c = true)
    (carries : Carries read cs) : Carries read (c :: cs) := by
  simpa only [Carries, reads_space space] using carries

theorem Carries.of_blanks {read : List Lexeme} (width : Nat) (carries : Carries read cs) :
    Carries read (List.replicate width ' ' ++ cs) := by
  simpa only [Carries, reads_blanks] using carries

theorem Carries.relay_feed {read : List Lexeme} (reads : Reads rest read) (dropping : Bool)
    (lines : ∀ dropping : Bool, (dropping = true → blankLine rest = true) →
      Carries read (relay width dropping rest)) :
    Carries read (relay width dropping ('\n' :: rest)) := by
  rw [Lexer.relay_feed]
  split
  next last =>
    subst last
    exact lines false undropped
  next =>
    refine .of_space (by decide) ?_
    rw [relaid]
    split
    next blankly => exact lines true fun _ => blankly
    next => exact .of_blanks width (lines false undropped)

/-- What is read of a lexeme and of the rest behind it is read of both. -/
theorem Carries.of_lexeme (positive : 0 < width) {first others : List Lexeme}
    (front : lexemeStep cs = some (first, rest)) (visible : ∀ c ∈ cs.head?, isSpace c = false)
    (carries : Carries others (relay width false rest)) :
    Carries (first ++ others) (relay width false cs) := by
  rcases lexemeStep_relay positive front visible with
    ⟨read', front', kept⟩ | ⟨none, lexeme, member, broken⟩
  · rcases carries with ⟨others', more', kept'⟩ | ⟨unread, lexeme, member, broken⟩
    · exact .inl ⟨read' ++ others', .cons front' more', List.rel_append kept kept'⟩
    · refine .inr ⟨fun ⟨all, reads⟩ => ?_, lexeme, List.mem_append_right _ member, broken⟩
      obtain ⟨others', -, more'⟩ := (Reads.of_front front').mp reads
      exact unread ⟨others', more'⟩
  · refine .inr ⟨fun ⟨all, reads⟩ => ?_, lexeme, List.mem_append_left _ member, broken⟩
    refine Reads.not_of_front none ?_ reads
    cases cs with
    | nil => cases front
    | cons c cs =>
      have shown := visible c rfl
      rw [relay_cons]
      · simp
      · rintro rfl
        cases shown
      · rintro rfl
        cases shown

theorem carries_relay (positive : 0 < width) {read : List Lexeme} (reads : Reads cs read)
    (dropping : Bool) (blank : dropping = true → blankLine cs = true) :
    Carries read (relay width dropping cs) := by
  induction reads generalizing dropping with
  | nil => exact .inl ⟨[], .nil, .nil⟩
  | @cons cs rest first others front more ih =>
    cases cs with
    | nil => cases front
    | cons c cs =>
      cases space : isSpace c with
      | false =>
        have visible : Chars.isBlank c = false := by
          by_contra blankly
          rw [isSpace_of_isBlank (by simpa using blankly)] at space
          cases space
        cases eq_false_of_visible visible blank
        exact .of_lexeme positive front (by simpa using space) (ih false undropped)
      | true =>
        rw [lexemeStep_space space, Option.some.injEq, Prod.mk.injEq] at front
        obtain ⟨rfl, rfl⟩ := front
        by_cases fed : c = '\n'
        · subst fed
          exact .relay_feed more dropping ih
        · rcases relay_cases width fed blank with ⟨goes, later⟩ | ⟨rfl, -, stays⟩
          · rw [goes]
            exact ih dropping later
          · rw [stays]
            exact .of_space space (ih false undropped)

theorem map_meaning_iff {read read' : List Lexeme} (kept : List.Forall₂ Kept read read') :
    read'.map Lexeme.meaning = read.map Lexeme.meaning ↔
      ∀ lexeme ∈ read, lexeme.isUnbroken = true := by
  induction kept with
  | nil => simp
  | cons first _ ih =>
    rw [List.map_cons, List.map_cons, List.cons.injEq, List.forall_mem_cons]
    exact and_congr first ih

/-- A text carries its meaning exactly if no lexeme has line feeds that count. -/
theorem Carries.iff {read : List Lexeme} (carries : Carries read cs) :
    (∃ read', Reads cs read' ∧ read'.map Lexeme.meaning = read.map Lexeme.meaning) ↔
      ∀ lexeme ∈ read, lexeme.isUnbroken = true := by
  rcases carries with ⟨read', reads', kept⟩ | ⟨unread, lexeme, member, broken⟩
  · rw [← map_meaning_iff kept]
    constructor
    · rintro ⟨read'', reads'', same⟩
      rwa [reads'.unique reads'']
    · exact fun same => ⟨read', reads', same⟩
  · refine iff_of_false (fun ⟨read', reads', _⟩ => unread ⟨read', reads'⟩) fun unbroken => ?_
    rw [unbroken lexeme member] at broken
    cases broken

theorem carries_relaid (positive : 0 < width) {read : List Lexeme} (reads : Reads cs read) :
    Carries read (relaid width cs) := by
  rw [relaid]
  split
  next blankly => exact carries_relay positive reads true fun _ => blankly
  next => exact .of_blanks width (carries_relay positive reads false undropped)

end

end Lexer

end Companion.Code

import Companion.Proofs.Code.Relaying

/-! Strings and comments that span lines, when their lines are put at a new depth.

A raw string or a comment has one more blank for every blank that comes in, so its text is
another one as soon as it spans lines. A cooked string leaves out the blanks behind an escaped
line feed; its value is another one as soon as it has a line feed that is not left out.
-/

set_option autoImplicit false

namespace Companion.Code.Lexer

section

variable {width : Nat} {dropping : Bool} {q : Quoted} {cs rest taken left : List Char}

theorem Quoted.admits_blanks (q : Quoted) : q.admits ' ' = true ∧ q.admits '\n' = true := by
  cases q <;> decide

/-! ### Raw strings -/

theorem rawString_cons {hashes : List Char} {c : Char} (unquoted : c ≠ '"') (unreturned : c ≠ '\r')
    (admitted : q.admits c = true) :
    rawString q hashes (c :: cs) = (rawString q hashes cs).map (Scanned.cons c) := by
  rw [rawString, if_neg unquoted, if_neg (absurd ·.1 unreturned), if_pos admitted]

theorem rawString_blanks (hashes : List Char) (width : Nat) (cs : List Char) :
    rawString q hashes (List.replicate width ' ' ++ cs) =
      (rawString q hashes cs).map (Scanned.prepend (List.replicate width ' ')) := by
  induction width with
  | zero =>
    rw [List.replicate_zero, List.nil_append]
    cases rawString q hashes cs <;> rfl
  | succ width ih =>
    rw [List.replicate_succ, List.cons_append,
      rawString_cons (by decide) (by decide) q.admits_blanks.1, ih, Option.map_map]
    rfl

theorem of_map_cons {scanned : Option Scanned} {c : Char}
    (found : scanned.map (Scanned.cons c) = some (c :: cs, [])) : scanned = some (cs, []) := by
  obtain ⟨⟨more, left⟩, rfl, same⟩ := Option.map_eq_some_iff.mp found
  cases same
  rfl

theorem rawString_relay {n : Nat}
    (closes : rawString q (List.replicate n '#') cs = some (cs, []))
    (blank : dropping = true → blankLine cs = true) :
    rawString q (List.replicate n '#') (relay width dropping cs) =
      some (relay width dropping cs, []) := by
  have unbroken : '\n' ∉ List.replicate n '#' ∧ '\r' ∉ List.replicate n '#' := by
    simp [List.mem_replicate]
  induction cs generalizing dropping with
  | nil => cases closes
  | cons c cs ih =>
    by_cases quote : c = '"'
    · subst quote
      cases eq_false_of_visible (by decide) blank
      rw [relay_cons (by decide) (absurd · (by decide))]
      cases ended : (List.replicate n '#').isPrefixOf? cs with
      | some more =>
        have same := closes
        simp only [rawString, if_true, ended] at same
        cases same
        rwa [relay_of_unfed unbroken.1]
      | none =>
        simp only [rawString, if_true, ended] at closes
        rw [isPrefixOf?_eq_none_iff, ← isPrefixOf_relay unbroken.1 unbroken.2 width,
          ← isPrefixOf?_eq_none_iff] at ended
        simp only [rawString, if_true, ended]
        rw [ih (of_map_cons closes) undropped]
        rfl
    · rw [rawString, if_neg quote] at closes
      obtain ⟨paired, closes⟩ := Option.ite_none_left_eq_some.mp closes
      obtain ⟨admitted, closes⟩ := Option.ite_none_right_eq_some.mp closes
      have inner := of_map_cons closes
      by_cases fed : c = '\n'
      · subst fed
        have written : cs ≠ [] := by
          rintro rfl
          cases inner
        rcases relay_feed_cases width dropping written with ⟨blankly, dropped⟩ | indented
        · rw [dropped, rawString_cons (by decide) (by decide) admitted, ih inner fun _ => blankly]
          rfl
        · rw [indented, rawString_cons (by decide) (by decide) admitted, rawString_blanks,
            ih inner undropped]
          rfl
      · rcases relay_cases width fed blank with ⟨goes, later⟩ | ⟨rfl, kept, stays⟩
        · rw [goes]
          exact ih inner later
        · have unreturned : c ≠ '\r' := fun returned => paired ⟨returned, kept returned⟩
          rw [stays, rawString_cons quote unreturned admitted, ih inner undropped]
          rfl

theorem rawString_ends {hashes : List Char} (found : rawString q hashes cs = some (taken, left)) :
    ∃ content, taken = content ++ '"' :: hashes := by
  induction cs generalizing taken with
  | nil => cases found
  | cons c cs ih =>
    have later (found : (rawString q hashes cs).map (Scanned.cons c) = some (taken, left)) :
        ∃ content, taken = content ++ '"' :: hashes := by
      obtain ⟨⟨more, left'⟩, scanned, same⟩ := Option.map_eq_some_iff.mp found
      cases same
      obtain ⟨content, rfl⟩ := ih scanned
      exact ⟨c :: content, rfl⟩
    rw [rawString] at found
    split at found
    · split at found
      · cases found
        exact ⟨[], rfl⟩
      · exact later found
    · obtain ⟨-, found⟩ := Option.ite_none_left_eq_some.mp found
      obtain ⟨-, found⟩ := Option.ite_none_right_eq_some.mp found
      exact later found

theorem endsVisibly_hashes (n : Nat) : EndsVisibly ('"' :: List.replicate n '#') := by
  cases n with
  | zero => exact endsVisibly_singleton.mpr (by decide)
  | succ n =>
    rw [List.replicate_succ', ← List.cons_append]
    exact endsVisibly_append _ (endsVisibly_singleton.mpr (by decide))

/-- The value of a raw string is kept only if the string stands on one line. -/
theorem rawValue_relay (positive : 0 < width) {content content' hashes : List Char}
    (visible : EndsVisibly (content ++ hashes))
    (same : relay width false (content ++ hashes) = content' ++ hashes) :
    rawValue q content' = rawValue q content ↔ '\n' ∉ content ++ hashes := by
  constructor
  · intro kept fed
    have whole : rawValue q (content' ++ hashes) = rawValue q (content ++ hashes) := by
      simp only [rawValue, List.flatMap_append] at kept ⊢
      rw [kept]
    obtain ⟨front, front', back, split, split'⟩ := relay_apart positive visible fed undropped
    rw [← same, split', split] at whole
    have feed : q.units 10 = [10] := by cases q <;> decide
    have blank : q.units 32 = [32] := by cases q <;> decide
    have apart : Apart 10 32 (rawValue q (front ++ '\n' :: back))
        (rawValue q (front' ++ ' ' :: back)) :=
      ⟨rawValue q front, rawValue q front', rawValue q back, by simp [rawValue, feed],
        by simp [rawValue, blank]⟩
    exact apart.ne (by decide) whole.symm
  · intro unfed
    rw [relay_of_unfed unfed] at same
    rw [List.append_cancel_right same]

/-! ### Cooked strings -/

/-- The state after the end of a line, with or without a return. -/
def StringScan.feed : StringScan → Option StringScan
  | .body => some .body
  | .escape | .blanks => some .blanks
  | _ => none

/-- The scan of a cooked string from a state to its closing quote, the end of a line at once. -/
inductive Run (q : Quoted) : StringScan → List Char → Prop
  | close {state : StringScan} (ready : state = .body ∨ state = .blanks) : Run q state ['"']
  | plain {state next : StringScan} {c : Char} {cs : List Char} (unfed : c ≠ '\n')
      (unreturned : c ≠ '\r') (inside : ¬ (c = '"' ∧ (state = .body ∨ state = .blanks)))
      (stepped : state.next q c = some next) (more : Run q next cs) : Run q state (c :: cs)
  | feed {state next : StringScan} {cs : List Char} (fed : state.feed = some next)
      (more : Run q next cs) : Run q state ('\n' :: cs)
  | long {state next : StringScan} {cs : List Char} (fed : state.feed = some next)
      (more : Run q next cs) : Run q state ('\r' :: '\n' :: cs)

theorem feed_cases {state next : StringScan} (fed : state.feed = some next) :
    state = .body ∧ next = .body ∨ (state = .escape ∨ state = .blanks) ∧ next = .blanks := by
  cases state <;> cases fed <;> simp

theorem cookedString_step {state next : StringScan} {c : Char}
    (inside : ¬ (c = '"' ∧ (state = .body ∨ state = .blanks)))
    (stepped : state.next q c = some next) :
    cookedString q state (c :: cs) = (cookedString q next cs).map (Scanned.cons c) := by
  rw [cookedString, if_neg inside, stepped]

theorem cookedValue_step {state next : StringScan} {c : Char}
    (inside : ¬ (c = '"' ∧ (state = .body ∨ state = .blanks)))
    (stepped : state.next q c = some next) :
    cookedValue q state (c :: cs) = state.adds q c ++ cookedValue q next cs := by
  rw [cookedValue, if_neg inside, stepped]

/-- The end of a line is read in one step or in two. -/
theorem next_feed {state next : StringScan} (fed : state.feed = some next) :
    state.next q '\n' = some next ∧
      ∃ returned, state.next q '\r' = some returned ∧ returned.next q '\n' = some next := by
  cases state <;> cases fed
  · exact ⟨by cases q <;> decide, .lineFeed, rfl, rfl⟩
  · exact ⟨by cases q <;> decide, .blankLineFeed, by cases q <;> decide, rfl⟩
  · exact ⟨rfl, .blankLineFeed, rfl, rfl⟩

theorem Run.cookedString {state : StringScan} (run : Run q state cs) :
    cookedString q state cs = some (cs, []) := by
  induction run with
  | close ready => simp [Lexer.cookedString, ready]
  | plain _ _ inside stepped _ ih =>
    rw [cookedString_step inside stepped, ih]
    rfl
  | feed fed _ ih =>
    rw [cookedString_step (by simp) (next_feed fed).1, ih]
    rfl
  | long fed _ ih =>
    obtain ⟨returned, first, second⟩ := (next_feed (q := q) fed).2
    rw [cookedString_step (by simp) first, cookedString_step (by simp) second, ih]
    rfl

/-- The state after the line feed that a return calls for. -/
def StringScan.owed : StringScan → Option StringScan
  | .lineFeed => some .body
  | .blankLineFeed => some .blanks
  | _ => none

theorem next_of_owed {state next after : StringScan} {c : Char} (owed : state.owed = some after)
    (stepped : state.next q c = some next) : c = '\n' ∧ next = after := by
  cases state <;> cases owed
  · simp only [StringScan.next, Option.ite_none_right_eq_some, Option.some.injEq] at stepped
    exact ⟨stepped.1, stepped.2.symm⟩
  · simp only [StringScan.next, Option.ite_none_right_eq_some, Option.some.injEq] at stepped
    exact ⟨stepped.1, stepped.2.symm⟩

theorem Run.endsVisibly {state : StringScan} (run : Run q state cs) : EndsVisibly cs := by
  induction run with
  | close => exact endsVisibly_singleton.mpr (by decide)
  | @plain _ _ c _ _ _ _ _ _ ih => exact endsVisibly_append [c] ih
  | feed _ _ ih => exact endsVisibly_append ['\n'] ih
  | long _ _ ih => exact endsVisibly_append ['\r', '\n'] ih

theorem feed_of_next {state next : StringScan} (settled : state.owed = none)
    (stepped : state.next q '\n' = some next) : state.feed = some next := by
  cases state with
  | body => simpa [StringScan.next, StringScan.feed, q.admits_blanks.2] using stepped
  | escape => simpa [StringScan.next, StringScan.feed] using stepped
  | blanks => simpa [StringScan.next, StringScan.feed] using stepped
  | lineFeed => cases settled
  | blankLineFeed => cases settled
  | firstHex => cases stepped
  | secondHex high => cases stepped
  | codePointOpen => cases stepped
  | codePoint digits value => simp [StringScan.next, hexValue?] at stepped

theorem owed_of_next {state next : StringScan} (settled : state.owed = none)
    (stepped : state.next q '\r' = some next) :
    ∃ after, next.owed = some after ∧ state.feed = some after := by
  cases state with
  | body =>
    obtain rfl : StringScan.lineFeed = next := by simpa [StringScan.next] using stepped
    exact ⟨.body, rfl, rfl⟩
  | escape =>
    obtain rfl : StringScan.blankLineFeed = next := by simpa [StringScan.next] using stepped
    exact ⟨.blanks, rfl, rfl⟩
  | blanks =>
    obtain rfl : StringScan.blankLineFeed = next := by simpa [StringScan.next] using stepped
    exact ⟨.blanks, rfl, rfl⟩
  | lineFeed => cases settled
  | blankLineFeed => cases settled
  | firstHex => cases stepped
  | secondHex high => cases stepped
  | codePointOpen => cases stepped
  | codePoint digits value => simp [StringScan.next, hexValue?] at stepped

theorem settled_of_next {state next : StringScan} {c : Char} (unreturned : c ≠ '\r')
    (stepped : state.next q c = some next) : next.owed = none := by
  cases state with
  | firstHex =>
    obtain ⟨high, -, rfl⟩ := Option.map_eq_some_iff.mp stepped
    rfl
  | secondHex high =>
    rw [StringScan.next] at stepped
    split at stepped
    · obtain ⟨-, same⟩ := Option.ite_none_right_eq_some.mp stepped
      cases same
      rfl
    · cases stepped
  | codePoint digits value =>
    rw [StringScan.next] at stepped
    split at stepped
    · cases stepped
      rfl
    · split at stepped
      · obtain ⟨-, same⟩ := Option.ite_none_right_eq_some.mp stepped
        cases same
        rfl
      · split at stepped
        · obtain ⟨-, same⟩ := Option.ite_none_left_eq_some.mp stepped
          cases same
          rfl
        · cases stepped
  | _ =>
    simp only [StringScan.next] at stepped
    split_ifs at stepped <;> cases stepped <;> rfl

theorem run_of_cookedString {state : StringScan}
    (closes : Lexer.cookedString q state cs = some (cs, [])) :
    (state.owed = none → Run q state cs) ∧
      ∀ after, state.owed = some after → ∃ more, cs = '\n' :: more ∧ Run q after more := by
  induction cs generalizing state with
  | nil => cases closes
  | cons c cs ih =>
    rw [Lexer.cookedString] at closes
    split at closes
    next closing =>
      obtain ⟨rfl, ready⟩ := closing
      cases closes
      refine ⟨fun _ => .close ready, fun after owed => ?_⟩
      rcases ready with rfl | rfl <;> cases owed
    next inside =>
      split at closes
      next next stepped =>
        obtain ⟨settled, returned⟩ := ih (of_map_cons closes)
        refine ⟨fun open' => ?_, fun after owed => ?_⟩
        · by_cases fed : c = '\n'
          · subst fed
            exact .feed (feed_of_next open' stepped) (settled (settled_of_next (by decide) stepped))
          · by_cases return' : c = '\r'
            · subst return'
              obtain ⟨after, owed, fed⟩ := owed_of_next open' stepped
              obtain ⟨more, rfl, run⟩ := returned after owed
              exact .long fed run
            · exact .plain fed return' inside stepped (settled (settled_of_next return' stepped))
        · obtain ⟨rfl, rfl⟩ := next_of_owed owed stepped
          exact ⟨cs, rfl, settled (settled_of_next (by decide) stepped)⟩
      next => cases closes

/-! ### Values of cooked strings -/

/-- Every line feed of a cooked string is one that the string leaves out. -/
def leavesOut (q : Quoted) : StringScan → List Char → Bool
  | _, [] => true
  | state, c :: rest =>
    if c = '"' ∧ (state = .body ∨ state = .blanks) then true
    else
      match state.next q c with
      | some next => (decide (c ≠ '\n') || decide (next = .blanks)) && leavesOut q next rest
      | none => true

theorem leavesOut_step {state next : StringScan} {c : Char}
    (inside : ¬ (c = '"' ∧ (state = .body ∨ state = .blanks)))
    (stepped : state.next q c = some next) :
    leavesOut q state (c :: cs) =
      ((decide (c ≠ '\n') || decide (next = .blanks)) && leavesOut q next cs) := by
  rw [leavesOut, if_neg inside, stepped]

/-- What the end of a line adds to the value. -/
def StringScan.feeds (state : StringScan) : List Nat := if state = .body then [10] else []

section

variable {state next : StringScan}

theorem cookedValue_feed (fed : state.feed = some next) (cs : List Char) :
    cookedValue q state ('\n' :: cs) = state.feeds ++ cookedValue q next cs ∧
      cookedValue q state ('\r' :: '\n' :: cs) = state.feeds ++ cookedValue q next cs := by
  obtain ⟨single, returned, first, second⟩ := next_feed (q := q) fed
  have adds : state.adds q '\n' = state.feeds ∧
      state.adds q '\r' ++ returned.adds q '\n' = state.feeds := by
    cases state <;> cases fed
    · cases first
      exact ⟨by cases q <;> decide, by cases q <;> decide⟩
    · have same : returned = .blankLineFeed := by simpa [StringScan.next] using first.symm
      subst same
      exact ⟨by cases q <;> decide, by cases q <;> decide⟩
    · cases first
      exact ⟨rfl, rfl⟩
  rw [cookedValue_step (by simp) single, cookedValue_step (by simp) first,
    cookedValue_step (by simp) second, ← List.append_assoc, adds.1, adds.2]
  exact ⟨rfl, rfl⟩

theorem leavesOut_feed (fed : state.feed = some next) (cs : List Char) :
    leavesOut q state ('\n' :: cs) = (decide (next = .blanks) && leavesOut q next cs) ∧
      leavesOut q state ('\r' :: '\n' :: cs) =
        (decide (next = .blanks) && leavesOut q next cs) := by
  obtain ⟨single, returned, first, second⟩ := next_feed (q := q) fed
  rw [leavesOut_step (by simp) single, leavesOut_step (by simp) first,
    leavesOut_step (by simp) second]
  simp

theorem leavesOut_plain {c : Char} (unfed : c ≠ '\n')
    (inside : ¬ (c = '"' ∧ (state = .body ∨ state = .blanks)))
    (stepped : state.next q c = some next) (cs : List Char) :
    leavesOut q state (c :: cs) = leavesOut q next cs := by
  rw [leavesOut_step inside stepped, decide_eq_true unfed, Bool.true_or, Bool.true_and]

/-- A blank leads to the body, if it is not left out. -/
theorem next_blank {c : Char} (blank : Chars.isBlank c = true) (unfed : c ≠ '\n')
    (unreturned : c ≠ '\r') (stepped : state.next q c = some next)
    (ready : state = .body ∨ state = .blanks) :
    next = .body ∨ state = .blanks ∧ next = .blanks ∧ (c = ' ' ∨ c = '\t') := by
  have escape : c ≠ '\\' := by
    rintro rfl
    cases blank
  rcases ready with rfl | rfl
  · simp only [StringScan.next, escape, unreturned, if_false,
      Option.ite_none_right_eq_some] at stepped
    exact .inl (Option.some.inj stepped.2).symm
  · simp only [StringScan.next, escape, unreturned, unfed, if_false, or_false] at stepped
    split at stepped
    next skipped => exact .inr ⟨rfl, (Option.some.inj stepped).symm, skipped⟩
    next => exact .inl (Option.some.inj (Option.ite_none_right_eq_some.mp stepped).2).symm

/-- A blank line that is read in the body ends with a line feed that is not left out. -/
theorem Run.not_leavesOut (run : Run q state cs) (body : state = .body)
    (blank : blankLine cs = true) : leavesOut q state cs = false := by
  induction run with
  | close => simp [blankLine_cons, Chars.isBlank] at blank
  | plain unfed unreturned inside stepped more ih =>
    subst body
    rw [blankLine_cons_iff unfed] at blank
    rcases next_blank blank.1 unfed unreturned stepped (.inl rfl) with rfl | ⟨same, -⟩
    · rw [leavesOut_plain unfed inside stepped, ih rfl blank.2]
    · cases same
  | feed fed more =>
    subst body
    cases fed
    rw [(leavesOut_feed rfl _).1]
    rfl
  | long fed more =>
    subst body
    cases fed
    rw [(leavesOut_feed rfl _).2]
    rfl

/-- What remains of a value without its blanks. -/
def inked (units : List Nat) : Nat := units.countP (· ≠ 32)

theorem inked_append (units more : List Nat) : inked (units ++ more) = inked units + inked more :=
  List.countP_append

theorem run_blanks (ready : state = .body ∨ state = .blanks) (run : Run q state cs) (width : Nat) :
    Run q state (List.replicate width ' ' ++ cs) ∧
      cookedValue q state (List.replicate width ' ' ++ cs) =
        (if state = .body then List.replicate width 32 else []) ++ cookedValue q state cs := by
  have stepped : state.next q ' ' = some state := by
    rcases ready with rfl | rfl
    · cases q <;> decide
    · rfl
  have adds : state.adds q ' ' = if state = .body then [32] else [] := by
    rcases ready with rfl | rfl
    · cases q <;> decide
    · rfl
  induction width with
  | zero => exact ⟨run, by simp⟩
  | succ width ih =>
    rw [List.replicate_succ, List.cons_append]
    refine ⟨.plain (by decide) (by decide) (by simp) stepped ih.1, ?_⟩
    rw [cookedValue_step (by simp) stepped, adds, ih.2]
    split <;> rfl

/-- Scans that agree, or of which the second still leaves blanks out. -/
def Lags (state state' : StringScan) : Prop :=
  state' = state ∨ state = .body ∧ state' = .blanks

theorem Lags.ready {state' : StringScan} (lags : Lags state state')
    (ready : state = .body ∨ state = .blanks) : state' = .body ∨ state' = .blanks := by
  rcases lags with rfl | ⟨-, rfl⟩
  · exact ready
  · exact .inr rfl

theorem Lags.step {state' : StringScan} {c : Char} (lags : Lags state state') (unfed : c ≠ '\n')
    (unreturned : c ≠ '\r') (inside : ¬ (c = '"' ∧ (state = .body ∨ state = .blanks)))
    (stepped : state.next q c = some next) :
    ∃ next', state'.next q c = some next' ∧ Lags next next' ∧
      ¬ (c = '"' ∧ (state' = .body ∨ state' = .blanks)) ∧
      inked (state'.adds q c) ≤ inked (state.adds q c) := by
  rcases lags with rfl | ⟨rfl, rfl⟩
  · exact ⟨next, stepped, .inl rfl, inside, Nat.le_refl _⟩
  · have unquoted : c ≠ '"' := by simpa using inside
    by_cases escape : c = '\\'
    · subst escape
      cases stepped
      exact ⟨.escape, rfl, .inl rfl, by simp, Nat.le_refl _⟩
    · simp only [StringScan.next, escape, unreturned, if_false,
        Option.ite_none_right_eq_some] at stepped
      obtain ⟨admitted, same⟩ := stepped
      cases same
      by_cases skipped : c = ' ' ∨ c = '\t'
      · have left : StringScan.next q .blanks c = some .blanks := by
          rcases skipped with rfl | rfl <;> rfl
        have adds : StringScan.adds q .blanks c = [] := by
          rcases skipped with rfl | rfl <;> rfl
        exact ⟨.blanks, left, .inr ⟨rfl, rfl⟩, by simp [unquoted], by simp [adds, inked]⟩
      · rw [not_or] at skipped
        refine ⟨.body, ?_, .inl rfl, by simp [unquoted], ?_⟩
        · simp [StringScan.next, skipped, unfed, unreturned, escape, admitted]
        · simp [StringScan.adds, skipped, unfed, unreturned, escape]

theorem Lags.feed {state' : StringScan} (lags : Lags state state') (fed : state.feed = some next) :
    ∃ next', state'.feed = some next' ∧ Lags next next' ∧
      inked state'.feeds ≤ inked state.feeds := by
  rcases lags with rfl | ⟨rfl, rfl⟩
  · exact ⟨next, fed, .inl rfl, Nat.le_refl _⟩
  · cases fed
    exact ⟨.blanks, rfl, .inr ⟨rfl, rfl⟩, by decide⟩

theorem feed_ready (fed : state.feed = some next) : next = .body ∨ next = .blanks := by
  rcases feed_cases fed with ⟨-, rfl⟩ | ⟨-, rfl⟩
  · exact .inl rfl
  · exact .inr rfl

theorem Run.ne_nil (run : Run q state cs) : cs ≠ [] := by
  cases run <;> simp

/-- The lines behind a line feed, from what is known of them. -/
theorem Run.relay_feed {state' : StringScan} (run : Run q next cs) (fed : state.feed = some next)
    (lags : Lags state state') (dropping : Bool)
    (lines : ∀ (next' : StringScan) (dropping : Bool), Lags next next' →
      (dropping = true → blankLine cs = true) →
        Run q next' (Lexer.relay width dropping cs) ∧
          inked (cookedValue q next' (Lexer.relay width dropping cs)) ≤
            inked (cookedValue q next cs)) :
    Run q state' (Lexer.relay width dropping ('\n' :: cs)) ∧
      inked (cookedValue q state' (Lexer.relay width dropping ('\n' :: cs))) ≤
        inked (state.feeds ++ cookedValue q next cs) := by
  obtain ⟨next', fed', lags', less⟩ := lags.feed fed
  rw [Lexer.relay_feed, if_neg run.ne_nil, (cookedValue_feed fed' _).1, inked_append, inked_append,
    relaid]
  cases blankly : blankLine cs with
  | true =>
    obtain ⟨run', fewer⟩ := lines next' true lags' fun _ => blankly
    exact ⟨.feed fed' run', Nat.add_le_add less fewer⟩
  | false =>
    obtain ⟨run', fewer⟩ := lines next' false lags' undropped
    obtain ⟨run', value⟩ := run_blanks (lags'.ready (feed_ready fed)) run' width
    rw [if_neg (by simp), value, inked_append]
    refine ⟨.feed fed' run', Nat.add_le_add less ?_⟩
    have blanks : inked (if next' = .body then List.replicate width 32 else []) = 0 := by
      split <;> simp [inked, List.countP_replicate]
    omega

/-- The scan goes on with lines at a new depth, where nothing but blanks comes in. -/
theorem Run.relay (run : Run q state cs) {state' : StringScan} (lags : Lags state state')
    (width : Nat) (dropping : Bool)
    (blank : dropping = true → blankLine cs = true ∧ (state = .body ∨ state = .blanks)) :
    Run q state' (Lexer.relay width dropping cs) ∧
      inked (cookedValue q state' (Lexer.relay width dropping cs)) ≤
        inked (cookedValue q state cs) := by
  induction run generalizing state' dropping with
  | @close state ready =>
    cases eq_false_of_visible (by decide) fun dropped => (blank dropped).1
    have ready' := lags.ready ready
    rw [relay_cons (by decide) (by decide), show Lexer.relay width false [] = [] from rfl]
    exact ⟨.close ready', by simp [cookedValue, ready, ready']⟩
  | @plain state next c cs unfed unreturned inside stepped more ih =>
    rw [cookedValue_step inside stepped, inked_append]
    cases dropping with
    | true =>
      obtain ⟨blank, ready⟩ := blank rfl
      rw [blankLine_cons_iff unfed] at blank
      rw [relay_dropped unfed]
      have lags' : Lags next state' := by
        rcases next_blank blank.1 unfed unreturned stepped ready with rfl | ⟨rfl, rfl, -⟩
        · rcases lags.ready ready with rfl | rfl
          · exact .inl rfl
          · exact .inr ⟨rfl, rfl⟩
        · exact lags
      have ready' : next = .body ∨ next = .blanks :=
        (next_blank blank.1 unfed unreturned stepped ready).imp_right fun skipped => skipped.2.1
      obtain ⟨run, fewer⟩ := ih lags' true fun _ => ⟨blank.2, ready'⟩
      exact ⟨run, by omega⟩
    | false =>
      obtain ⟨next', stepped', lags', inside', less⟩ := lags.step unfed unreturned inside stepped
      obtain ⟨run, fewer⟩ := ih lags' false undropped
      rw [relay_cons unfed (absurd · unreturned), cookedValue_step inside' stepped', inked_append]
      exact ⟨.plain unfed unreturned inside' stepped' run, Nat.add_le_add less fewer⟩
  | @feed state next cs fed more ih =>
    rw [(cookedValue_feed fed _).1]
    exact more.relay_feed fed lags dropping fun next' dropping lags' blank' =>
      ih lags' dropping fun dropped => ⟨blank' dropped, feed_ready fed⟩
  | @long state next cs fed more ih =>
    rw [(cookedValue_feed fed _).2, relay_return]
    exact more.relay_feed fed lags dropping fun next' dropping lags' blank' =>
      ih lags' dropping fun dropped => ⟨blank' dropped, feed_ready fed⟩

/-- A value, and what becomes of it with blanks that come in: the same if line feeds are left out
everywhere, and else one that has a blank in the place of a line feed, or one that lost more than
blanks. -/
inductive Drift : Bool → List Nat → List Nat → Prop
  | same (value : List Nat) : Drift true value value
  | apart {value value' : List Nat} (apart : Apart 10 32 value value') : Drift false value value'
  | faded {value value' : List Nat} (fewer : inked value' < inked value) : Drift false value value'

namespace Drift

variable {kept : Bool} {value value' : List Nat}

theorem append (drift : Drift kept value value') (units : List Nat) :
    Drift kept (units ++ value) (units ++ value') := by
  cases drift with
  | same => exact .same _
  | apart apart => exact .apart (apart.append units units)
  | faded fewer =>
    refine .faded ?_
    rw [inked_append, inked_append]
    omega

theorem append_of_false (drift : Drift false value value') (units units' : List Nat)
    (less : inked units' ≤ inked units) : Drift false (units ++ value) (units' ++ value') := by
  cases drift with
  | apart apart => exact .apart (apart.append units units')
  | faded fewer =>
    refine .faded ?_
    rw [inked_append, inked_append]
    omega

theorem same_iff (drift : Drift kept value value') : value' = value ↔ kept = true := by
  cases drift with
  | same => simp
  | apart apart => simpa using (apart.ne (by decide)).symm
  | faded fewer => simpa using fun same : value' = value => absurd fewer (by simp [same])

end Drift

theorem inked_units {c : Char} (blank : Chars.isBlank c = true) (visible : c ≠ ' ') (q : Quoted) :
    0 < inked (q.units c.toNat) := by
  have known : ∀ n ∈ List.range' 9 5 ++ List.range' 0x2000 11 ++
      [0x85, 0xA0, 0x1680, 0x2028, 0x2029, 0x202F, 0x205F, 0x3000],
      ∀ q : Quoted, 0 < inked (q.units n) := by
    intro n listed q
    revert n
    cases q <;> decide +kernel
  refine known c.toNat ?_ q
  have other : c.toNat ≠ 32 := fun same => visible (Char.toNat_inj.mp same)
  simp only [Chars.isBlank, Bool.or_eq_true, Bool.and_eq_true, decide_eq_true_eq,
    beq_iff_eq] at blank
  simp only [List.mem_append, List.mem_range'_1, List.mem_cons, List.not_mem_nil, or_false]
  omega

/-- The lines behind a line feed, from what is known of their values. -/
theorem Run.drift_feed (positive : 0 < width) (run : Run q next cs) (fed : state.feed = some next)
    (dropping : Bool)
    (lines : ∀ dropping : Bool, (dropping = true → blankLine cs = true) →
      Drift (leavesOut q next cs) (cookedValue q next cs)
        (cookedValue q next (Lexer.relay width dropping cs))) :
    Drift (decide (next = .blanks) && leavesOut q next cs)
      (state.feeds ++ cookedValue q next cs)
      (cookedValue q state (Lexer.relay width dropping ('\n' :: cs))) := by
  rw [Lexer.relay_feed, if_neg run.ne_nil, (cookedValue_feed fed _).1, relaid]
  cases blankly : blankLine cs with
  | true =>
    have drift := lines true fun _ => blankly
    rcases feed_ready fed with rfl | rfl
    · rw [run.not_leavesOut rfl blankly] at drift
      exact drift.append _
    · exact drift.append _
  | false =>
    have drift := lines false undropped
    obtain ⟨run', -⟩ := run.relay (.inl rfl) width false undropped
    obtain ⟨-, value⟩ := run_blanks (feed_ready fed) run' width
    rw [if_neg (by simp), value]
    rcases feed_cases fed with ⟨rfl, rfl⟩ | ⟨-, rfl⟩
    · cases steady : leavesOut q .body cs with
      | true =>
        rw [steady] at drift
        rw [drift.same_iff.mpr rfl]
        refine .apart ⟨[], 10 :: List.replicate (width - 1) 32, cookedValue q .body cs, rfl, ?_⟩
        obtain ⟨n, rfl⟩ := Nat.exists_eq_succ_of_ne_zero (Nat.ne_of_gt positive)
        simp [StringScan.feeds, List.replicate_succ']
      | false =>
        rw [steady] at drift
        rw [if_pos rfl, ← List.append_assoc]
        exact drift.append_of_false _ _ (by simp [StringScan.feeds, inked, List.countP_replicate])
    · exact drift.append _

theorem Run.drift (positive : 0 < width) (run : Run q state cs) (dropping : Bool)
    (blank : dropping = true → blankLine cs = true ∧ (state = .body ∨ state = .blanks)) :
    Drift (leavesOut q state cs) (cookedValue q state cs)
      (cookedValue q state (Lexer.relay width dropping cs)) := by
  induction run generalizing dropping with
  | @close state ready =>
    cases eq_false_of_visible (by decide) fun dropped => (blank dropped).1
    rw [relay_of_unfed (by simp)]
    simpa [leavesOut, ready] using Drift.same _
  | @plain state next c cs unfed unreturned inside stepped more ih =>
    rw [cookedValue_step inside stepped, leavesOut_plain unfed inside stepped]
    cases dropping with
    | true =>
      obtain ⟨blankly, ready⟩ := blank rfl
      rw [blankLine_cons_iff unfed] at blankly
      rw [relay_dropped unfed]
      rcases next_blank blankly.1 unfed unreturned stepped ready with rfl | ⟨rfl, rfl, skipped⟩
      · have fed := more.not_leavesOut rfl blankly.2
        rcases ready with rfl | rfl
        · have drift := ih true fun _ => ⟨blankly.2, .inl rfl⟩
          rw [fed] at drift ⊢
          exact drift.append_of_false _ [] (Nat.zero_le _)
        · -- the blank is none that a string leaves out, and it goes with its line
          rw [fed]
          obtain ⟨-, fewer⟩ := more.relay (.inr ⟨rfl, rfl⟩) width true
            fun _ => ⟨blankly.2, .inl rfl⟩
          have visible : c ≠ ' ' ∧ c ≠ '\t' ∧ c ≠ '\\' := by
            refine ⟨?_, ?_, ?_⟩ <;> rintro rfl
            · cases stepped
            · cases stepped
            · cases blankly.1
          have adds : StringScan.adds q .blanks c = q.units c.toNat := by
            simp [StringScan.adds, visible, unfed, unreturned]
          have inky := inked_units blankly.1 visible.1 q
          refine .faded ?_
          rw [adds, inked_append]
          omega
      · have adds : StringScan.adds q .blanks c = [] := by
          rcases skipped with rfl | rfl <;> rfl
        rw [adds]
        exact ih true fun _ => ⟨blankly.2, .inr rfl⟩
    | false =>
      rw [relay_cons unfed (absurd · unreturned), cookedValue_step inside stepped]
      exact (ih false undropped).append _
  | @feed state next cs fed more ih =>
    rw [(cookedValue_feed fed _).1, (leavesOut_feed fed _).1]
    exact more.drift_feed positive fed dropping fun dropping blank' =>
      ih dropping fun dropped => ⟨blank' dropped, feed_ready fed⟩
  | @long state next cs fed more ih =>
    rw [(cookedValue_feed fed _).2, (leavesOut_feed fed _).2, relay_return]
    exact more.drift_feed positive fed dropping fun dropping blank' =>
      ih dropping fun dropped => ⟨blank' dropped, feed_ready fed⟩

end

end

end Companion.Code.Lexer

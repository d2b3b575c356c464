import Companion.Proofs.Code.Lexemes

/-! Texts whose lines are put at a new depth.

Each line gets the same blanks in front of it, and a blank line loses what it holds. Words, numbers
and marks stand on one line, so they are read as before. What spans lines is changed by the blanks
that come in, except where a string leaves them out.
-/

set_option autoImplicit false

namespace Companion.Code.Lexer

/-! ### Lines at a new depth -/

/-- Nothing but blanks up to the end of the line. -/
def blankLine (cs : List Char) : Bool := (cs.takeWhile (· ≠ '\n')).all Chars.isBlank

/-- The rest of a line, and the later lines at a new depth; `dropping` says that the line is
blank. The terminator of the last line goes, as do returns before line feeds. -/
def relay (width : Nat) : Bool → List Char → List Char
  | _, [] => []
  | dropping, c :: rest =>
    if c = '\n' then
      if rest = [] then []
      else if blankLine rest then '\n' :: relay width true rest
      else '\n' :: (List.replicate width ' ' ++ relay width false rest)
    else if c = '\r' ∧ rest.head? = some '\n' then relay width dropping rest
    else if dropping then relay width true rest
    else c :: relay width false rest

/-- Lines at a new depth. -/
def relaid (width : Nat) (cs : List Char) : List Char :=
  if blankLine cs then relay width true cs
  else List.replicate width ' ' ++ relay width false cs

section

variable {width : Nat} {dropping : Bool} {c : Char} {cs rest taken left after : List Char}

theorem blankLine_cons (c : Char) (cs : List Char) :
    blankLine (c :: cs) = (decide (c = '\n') || Chars.isBlank c && blankLine cs) := by
  by_cases fed : c = '\n' <;> simp [blankLine, fed]

theorem blankLine_cons_iff (unfed : c ≠ '\n') :
    blankLine (c :: cs) = true ↔ Chars.isBlank c = true ∧ blankLine cs = true := by
  rw [blankLine_cons, decide_eq_false unfed, Bool.false_or, Bool.and_eq_true]

theorem relay_feed (width : Nat) (dropping : Bool) (rest : List Char) :
    relay width dropping ('\n' :: rest) = if rest = [] then [] else '\n' :: relaid width rest := by
  rw [relay, if_pos rfl, relaid]
  split
  · rfl
  · split <;> rfl

theorem relay_return (width : Nat) (dropping : Bool) (rest : List Char) :
    relay width dropping ('\r' :: '\n' :: rest) = relay width dropping ('\n' :: rest) := by
  rw [relay, if_neg (by decide), if_pos ⟨rfl, rfl⟩]

theorem relay_cons (unfed : c ≠ '\n') (kept : c = '\r' → rest.head? ≠ some '\n') :
    relay width false (c :: rest) = c :: relay width false rest := by
  rw [relay, if_neg unfed, if_neg (by simpa using kept)]
  rfl

theorem relay_front {front : List Char} (unfed : '\n' ∉ front) (unreturned : '\r' ∉ front)
    (width : Nat) (cs : List Char) :
    relay width false (front ++ cs) = front ++ relay width false cs := by
  induction front with
  | nil => rfl
  | cons c front ih =>
    rw [List.mem_cons, not_or] at unfed unreturned
    rw [List.cons_append, relay_cons (Ne.symm unfed.1) (absurd · (Ne.symm unreturned.1)),
      ih unfed.2 unreturned.2]
    rfl

theorem relay_dropped (unfed : c ≠ '\n') :
    relay width true (c :: rest) = relay width true rest := by
  rw [relay, if_neg unfed]
  split <;> rfl

/-! ### Single lines -/

/-- A part of a line, and what comes behind the line. -/
structure Line (line after : List Char) : Prop where
  unfed : '\n' ∉ line
  kept : line.getLast? = some '\r' → after.head? ≠ some '\n'
  ends : after = [] ∨ ∃ rest, after = '\n' :: rest ∨ after = '\r' :: '\n' :: rest

namespace Line

theorem of_append (line : Line (taken ++ left) after) : Line left after where
  unfed member := line.unfed (List.mem_append_right _ member)
  kept returned := line.kept (by rw [List.getLast?_append, returned]; rfl)
  ends := line.ends

theorem stops (line : Line taken after) : Stops after := by
  rcases line.ends with rfl | ⟨rest, rfl | rfl⟩
  · exact stops_nil
  · exact stops_cons (by decide) _
  · exact stops_cons (by decide) _

/-- What comes behind a line at a new depth is the end of the text or a line feed. -/
theorem relay_ends (line : Line taken after) (width : Nat) :
    relay width false after = [] ∨ ∃ rest, relay width false after = '\n' :: rest := by
  have fed (rest : List Char) : relay width false ('\n' :: rest) = [] ∨
      ∃ more, relay width false ('\n' :: rest) = '\n' :: more := by
    rw [relay_feed]
    split
    · exact .inl rfl
    · exact .inr ⟨_, rfl⟩
  rcases line.ends with rfl | ⟨rest, rfl | rfl⟩
  · exact .inl rfl
  · exact fed rest
  · rw [relay_return]
    exact fed rest

theorem relay_stops (line : Line taken after) (width : Nat) : Stops (relay width false after) := by
  rcases line.relay_ends width with same | ⟨rest, same⟩ <;> rw [same]
  · exact stops_nil
  · exact stops_cons (by decide) _

theorem relay_append (line : Line taken after) (width : Nat) :
    relay width false (taken ++ after) = taken ++ relay width false after := by
  induction taken with
  | nil => rfl
  | cons c taken ih =>
    have unfed : c ≠ '\n' := fun fed => line.unfed (fed ▸ List.mem_cons_self)
    have kept : c = '\r' → (taken ++ after).head? ≠ some '\n' := by
      rintro rfl
      cases taken with
      | nil => exact line.kept rfl
      | cons d taken =>
        intro fed
        exact line.unfed (List.mem_cons_of_mem _ (Option.some.inj fed ▸ List.mem_cons_self))
    have rest : Line taken after := of_append (show Line ([c] ++ taken) after from line)
    rw [List.cons_append, relay_cons unfed kept, ih rest]
    rfl

end Line

/-- A text up to the end of its first line, and from there on. -/
theorem line_toLineEnd (cs : List Char) :
    ∃ after, cs = (toLineEnd cs).1 ++ after ∧ Line (toLineEnd cs).1 after ∧
      ∀ width, relay width false after = relay width false (toLineEnd cs).2 := by
  fun_induction toLineEnd cs with
  | case1 => exact ⟨[], rfl, ⟨by simp, by simp, .inl rfl⟩, fun _ => rfl⟩
  | case2 rest => exact ⟨_, rfl, ⟨by simp, by simp, .inr ⟨rest, .inl rfl⟩⟩, fun _ => rfl⟩
  | case3 rest =>
    exact ⟨_, rfl, ⟨by simp, by simp, .inr ⟨rest, .inr rfl⟩⟩, fun _ => relay_return _ _ _⟩
  | case4 c rest unfed kept ih =>
    obtain ⟨after, split, isLine, same⟩ := ih
    refine ⟨after, congrArg (c :: ·) split, ⟨?_, ?_, isLine.ends⟩, same⟩
    · rw [Scanned.cons, List.mem_cons, not_or]
      exact ⟨Ne.symm unfed, isLine.unfed⟩
    · rw [Scanned.cons]
      cases line : (toLineEnd rest).1 with
      | nil =>
        intro returned fed
        rw [line, List.nil_append] at split
        obtain ⟨more, rfl⟩ := List.head?_eq_some_iff.mp fed
        exact kept more (Option.some.inj returned) split
      | cons d more =>
        have kept := isLine.kept
        rwa [line] at kept

theorem exists_line (cs : List Char) : ∃ line after, cs = line ++ after ∧ Line line after := by
  obtain ⟨after, split, line, -⟩ := line_toLineEnd cs
  exact ⟨_, after, split, line⟩

/-- What a bounded scanner takes is on one line. -/
theorem Bounded.relay {scan : List Char → Option Scanned} (bounded : Bounded scan)
    (splits : Splits scan) (width : Nat) (cs : List Char) :
    scan (relay width false cs) = (scan cs).map fun s => (s.1, relay width false s.2) := by
  obtain ⟨line, after, rfl, isLine⟩ := exists_line cs
  rw [isLine.relay_append, bounded line _ isLine.stops, bounded line _ (isLine.relay_stops width)]
  cases found : scan line with
  | none => rfl
  | some s =>
    have rest : Line s.2 after := by
      rw [splits line s.1 s.2 found] at isLine
      exact isLine.of_append
    simp [Scanned.before, rest.relay_append]

theorem withSuffix_relay (width : Nat) (taken left : List Char) :
    withSuffix (taken, relay width false left) =
      ((withSuffix (taken, left)).1, relay width false (withSuffix (taken, left)).2) := by
  unfold withSuffix
  simp only [bounded_word?.relay splits_word?]
  cases word? left <;> rfl

theorem mark?_relay_ends (line : Line taken after) (width : Nat) :
    mark? after = none ∧ mark? (relay width false after) = none := by
  have feed (rest : List Char) : mark? ('\n' :: rest) = none := by
    rw [mark?, if_neg (by simp), if_neg (by decide +kernel)]
  refine ⟨?_, ?_⟩
  · rcases line.ends with rfl | ⟨rest, rfl | rfl⟩
    · rfl
    · exact feed rest
    · rw [mark?, if_neg (by simp), if_neg (by decide +kernel)]
  · rcases line.relay_ends width with same | ⟨rest, same⟩ <;> rw [same]
    · rfl
    · exact feed rest

theorem punct?_relay (width : Nat) {token : Token} (found : punct? cs = some (token, rest)) :
    punct? (relay width false cs) = some (token, relay width false rest) := by
  obtain ⟨line, after, rfl, isLine⟩ := exists_line cs
  obtain ⟨unmarked, unmarked'⟩ := mark?_relay_ends isLine width
  have written : line ≠ [] := by
    rintro rfl
    obtain ⟨c, marked, -⟩ := opens_of_punct? found
    rw [List.nil_append, unmarked] at marked
    cases marked
  rw [punct?_append written isLine.stops] at found
  obtain ⟨⟨token', left⟩, scanned, same⟩ := Option.map_eq_some_iff.mp found
  cases same
  obtain ⟨c, -, split, -⟩ := opens_of_punct? scanned
  have behind : Line left after := by
    rw [split, ← List.singleton_append] at isLine
    exact isLine.of_append
  rw [isLine.relay_append, punct?_append written (isLine.relay_stops width), scanned,
    behind.relay_append]
  simp only [Option.map_some, rejoin_of_unmarked unmarked scanned,
    rejoin_of_unmarked unmarked' scanned]

theorem isPrefixOf_relay {pattern : List Char} (unfed : '\n' ∉ pattern)
    (unreturned : '\r' ∉ pattern) (width : Nat) (cs : List Char) :
    pattern.isPrefixOf (relay width false cs) = pattern.isPrefixOf cs := by
  obtain ⟨line, after, rfl, isLine⟩ := exists_line cs
  have other : ∀ c ∈ after.head?, c ∉ pattern := by
    rcases isLine.ends with rfl | ⟨rest, rfl | rfl⟩
    · simp
    · simpa using unfed
    · simpa using unreturned
  have other' : ∀ c ∈ (relay width false after).head?, c ∉ pattern := by
    rcases isLine.relay_ends width with same | ⟨rest, same⟩ <;> rw [same]
    · simp
    · simpa using unfed
  rw [isLine.relay_append, isPrefixOf_append other, isPrefixOf_append other']

theorem isPrefixOf?_eq_none_iff {pattern : List Char} :
    pattern.isPrefixOf? cs = none ↔ pattern.isPrefixOf cs = false := by
  rw [← List.isSome_isPrefixOf?_eq_isPrefixOf, Option.isSome_eq_false_iff,
    Option.isNone_iff_eq_none]

theorem failed?_relay (width : Nat) (unfailed : failed? cs = none) :
    failed? (relay width false cs) = none := by
  have unbroken : '\n' ∉ failedLiteral.toList ∧ '\r' ∉ failedLiteral.toList := by decide +kernel
  rw [failed?, Option.map_eq_none_iff, isPrefixOf?_eq_none_iff] at unfailed ⊢
  rw [isPrefixOf_relay unbroken.1 unbroken.2, unfailed]

/-! ### What spans lines -/

theorem undropped {p : Prop} (dropped : false = true) : p := nomatch dropped

/-- No line with a visible character is dropped. -/
theorem eq_false_of_visible (visible : Chars.isBlank c = false)
    (blank : dropping = true → blankLine (c :: cs) = true) : dropping = false := by
  have unfed : c ≠ '\n' := by
    rintro rfl
    cases visible
  by_contra dropped
  have blankly := blank (by simpa using dropped)
  simp [blankLine_cons, visible, unfed] at blankly

/-- Behind a line feed, a blank line is dropped and any other one gets its blanks. -/
theorem relay_feed_cases (width : Nat) (dropping : Bool) (written : rest ≠ []) :
    (blankLine rest = true ∧
      relay width dropping ('\n' :: rest) = '\n' :: relay width true rest) ∨
    relay width dropping ('\n' :: rest) =
      '\n' :: (List.replicate width ' ' ++ relay width false rest) := by
  rw [relay_feed, if_neg written, relaid]
  cases blankly : blankLine rest with
  | true => exact .inl ⟨rfl, rfl⟩
  | false => exact .inr rfl

/-- A character within a line goes, with its blank line or as a return before a line feed, or it
stays. -/
theorem relay_cases (width : Nat) (unfed : c ≠ '\n')
    (blank : dropping = true → blankLine (c :: rest) = true) :
    (relay width dropping (c :: rest) = relay width dropping rest ∧
      (dropping = true → blankLine rest = true)) ∨
    dropping = false ∧ (c = '\r' → rest.head? ≠ some '\n') ∧
      relay width dropping (c :: rest) = c :: relay width false rest := by
  by_cases returned : c = '\r' ∧ rest.head? = some '\n'
  · obtain ⟨rfl, first⟩ := returned
    obtain ⟨rest, rfl⟩ := List.head?_eq_some_iff.mp first
    exact .inl ⟨relay_return .., fun _ => by simp [blankLine_cons]⟩
  · cases dropping with
    | true =>
      have later := ((blankLine_cons_iff unfed).mp (blank rfl)).2
      exact .inl ⟨relay_dropped unfed, fun _ => later⟩
    | false =>
      have kept := not_and.mp returned
      exact .inr ⟨rfl, kept, relay_cons unfed kept⟩

/-- A text whose last character is no blank. -/
def EndsVisibly (cs : List Char) : Prop := ∃ c ∈ cs.getLast?, Chars.isBlank c = false

theorem endsVisibly_singleton : EndsVisibly [c] ↔ Chars.isBlank c = false := by
  simp [EndsVisibly]

theorem endsVisibly_cons (written : cs ≠ []) : EndsVisibly (c :: cs) ↔ EndsVisibly cs := by
  obtain ⟨d, cs, rfl⟩ := List.exists_cons_of_ne_nil written
  rw [EndsVisibly, EndsVisibly, List.getLast?_cons_cons]

theorem endsVisibly_append (front : List Char) (visible : EndsVisibly cs) :
    EndsVisibly (front ++ cs) := by
  obtain ⟨c, last, visible⟩ := visible
  exact ⟨c, by rw [List.getLast?_append, last]; rfl, visible⟩

/-- What ends visibly is blank up to its first line feed if it is blank at all. -/
theorem blankLine_append (visible : EndsVisibly taken) (left : List Char) :
    blankLine (taken ++ left) = blankLine taken := by
  induction taken with
  | nil => simp [EndsVisibly] at visible
  | cons c taken ih =>
    rw [List.cons_append, blankLine_cons, blankLine_cons]
    by_cases last : taken = []
    · subst last
      rw [endsVisibly_singleton] at visible
      simp [visible]
    · rw [ih ((endsVisibly_cons last).mp visible)]

theorem blankLine_of_unfed (visible : EndsVisibly cs) (unfed : '\n' ∉ cs) :
    blankLine cs = false := by
  induction cs with
  | nil => simp [EndsVisibly] at visible
  | cons c cs ih =>
    rw [List.mem_cons, not_or] at unfed
    rw [blankLine_cons, decide_eq_false (Ne.symm unfed.1), Bool.false_or]
    by_cases last : cs = []
    · subst last
      rw [endsVisibly_singleton] at visible
      rw [visible, Bool.false_and]
    · rw [ih ((endsVisibly_cons last).mp visible) unfed.2, Bool.and_false]

theorem relay_append (visible : EndsVisibly taken)
    (blank : dropping = true → blankLine taken = true) (width : Nat) (left : List Char) :
    relay width dropping (taken ++ left) =
      relay width dropping taken ++ relay width false left := by
  induction taken generalizing dropping with
  | nil => simp [EndsVisibly] at visible
  | cons c taken ih =>
    by_cases last : taken = []
    · subst last
      rw [endsVisibly_singleton] at visible
      have unfed : c ≠ '\n' ∧ c ≠ '\r' := by
        constructor <;> rintro rfl <;> cases visible
      cases eq_false_of_visible visible blank
      rw [List.singleton_append, relay_cons unfed.1 (absurd · unfed.2),
        relay_cons unfed.1 (absurd · unfed.2)]
      rfl
    have behind := (endsVisibly_cons last).mp visible
    by_cases fed : c = '\n'
    · subst fed
      rw [List.cons_append, relay_feed, relay_feed, if_neg (by simp [last]), if_neg last, relaid,
        relaid, blankLine_append behind]
      cases blankly : blankLine taken with
      | true => simp [ih behind (fun _ => blankly)]
      | false => simp [ih behind undropped]
    · obtain ⟨d, more, rfl⟩ := List.exists_cons_of_ne_nil last
      by_cases returned : c = '\r' ∧ d = '\n'
      · obtain ⟨rfl, rfl⟩ := returned
        have blank' : dropping = true → blankLine ('\n' :: more) = true := fun _ => by
          simp [blankLine_cons]
        rw [List.cons_append, List.cons_append, relay_return, relay_return, ← List.cons_append,
          ih behind blank']
      · have kept (ds : List Char) : c = '\r' → (d :: ds).head? ≠ some '\n' := fun same fed' =>
          returned ⟨same, Option.some.inj fed'⟩
        cases dropping with
        | true =>
          have blankly := ((blankLine_cons_iff fed).mp (blank rfl)).2
          rw [List.cons_append, relay_dropped fed, relay_dropped fed, ih behind fun _ => blankly]
        | false =>
          rw [List.cons_append, List.cons_append, relay_cons fed (kept _),
            relay_cons fed (kept _), ← List.cons_append, ih behind undropped]
          rfl

theorem relay_of_unfed (unfed : '\n' ∉ cs) (width : Nat) : relay width false cs = cs := by
  have line : Line cs [] := ⟨unfed, by simp, .inl rfl⟩
  have same := line.relay_append width
  rwa [List.append_nil, show relay width false [] = [] from rfl, List.append_nil] at same

/-- In front of what texts have in common at their end stands one thing or another. -/
def Apart {α : Type} (a b : α) (as bs : List α) : Prop :=
  ∃ front front' back, as = front ++ a :: back ∧ bs = front' ++ b :: back

theorem Apart.ne {α : Type} {a b : α} {as bs : List α} (apart : Apart a b as bs) (other : a ≠ b) :
    as ≠ bs := by
  obtain ⟨front, front', back, rfl, rfl⟩ := apart
  intro same
  have reversed := congrArg List.reverse same
  simp only [List.reverse_append, List.reverse_cons, List.append_assoc] at reversed
  have := List.append_cancel_left reversed
  exact other (List.cons.inj this).1

theorem Apart.append {α : Type} {a b : α} {as bs : List α} (apart : Apart a b as bs)
    (more more' : List α) : Apart a b (more ++ as) (more' ++ bs) := by
  obtain ⟨front, front', back, rfl, rfl⟩ := apart
  exact ⟨more ++ front, more' ++ front', back, by simp, by simp⟩

/-- Blanks come in behind the last line feed. -/
theorem relay_apart (positive : 0 < width) (visible : EndsVisibly cs) (fed : '\n' ∈ cs)
    (blank : dropping = true → blankLine cs = true) :
    Apart '\n' ' ' cs (relay width dropping cs) := by
  induction cs generalizing dropping with
  | nil => cases fed
  | cons c cs ih =>
    have written : cs ≠ [] := by
      rintro rfl
      rw [endsVisibly_singleton] at visible
      rw [List.mem_singleton] at fed
      subst fed
      cases visible
    have behind := (endsVisibly_cons written).mp visible
    by_cases last : '\n' ∈ cs
    · by_cases same : c = '\n'
      · subst same
        rcases relay_feed_cases width dropping written with ⟨blankly, dropped⟩ | indented
        · rw [dropped]
          exact (ih behind last fun _ => blankly).append ['\n'] ['\n']
        · rw [indented, ← List.singleton_append (l := cs), ← List.cons_append]
          exact (ih behind last undropped).append ['\n'] _
      · rcases relay_cases width same blank with ⟨goes, later⟩ | ⟨rfl, -, stays⟩
        · rw [goes]
          exact (ih behind last later).append [c] []
        · rw [stays]
          exact (ih behind last undropped).append [c] [c]
    · obtain rfl : c = '\n' := by
        rcases List.mem_cons.mp fed with same | later
        · exact same.symm
        · exact absurd later last
      rw [relay_feed, if_neg written, relaid, blankLine_of_unfed behind last,
        relay_of_unfed last]
      refine ⟨[], '\n' :: List.replicate (width - 1) ' ', cs, rfl, ?_⟩
      obtain ⟨n, rfl⟩ := Nat.exists_eq_succ_of_ne_zero (Nat.ne_of_gt positive)
      rw [if_neg (by simp), List.replicate_succ', List.append_assoc]
      rfl

end

end Companion.Code.Lexer

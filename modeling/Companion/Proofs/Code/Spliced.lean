import Companion.Proofs.Code.Placed
import Companion.Proofs.Code.Forms
import Companion.Proofs.Code.Relaid

/-! Texts in front of what comes behind them.

A text keeps its tokens in front of a blank, a closing bracket or a semicolon, apart from what its
last mark is joined to. Only a line comment goes on into what comes behind it.
-/

set_option autoImplicit false

namespace Companion.Code

/-! ### Trees of tokens -/

namespace Tree

mutual

theorem closes_spelling : ∀ tree : Tree, Closes tree.spelling [tree]
  | .ident _ => fun _ _ _ => rfl
  | .punct _ _ => fun _ _ _ => rfl
  | .literal _ => fun _ _ _ => rfl
  | .group d body => (closes_spellings body).group d

theorem closes_spellings : ∀ trees : List Tree, Closes (spellings trees) trees
  | [] => fun _ _ _ => rfl
  | tree :: trees => (closes_spelling tree).append (closes_spellings trees)

end

/-- The trees of tokens are the trees that were made of them. -/
theorem ofTokens_iff {tokens : List Token} {trees : List Tree} :
    ofTokens tokens = some trees ↔ spellings trees = tokens := by
  constructor
  · exact spellings_of_ofTokens
  · rintro rfl
    exact (closes_spellings trees).whole

end Tree

/-- How many more groups the tokens open than they close. -/
def nesting : List Token → Int
  | [] => 0
  | .opening _ :: tokens => nesting tokens + 1
  | .closing _ :: tokens => nesting tokens - 1
  | _ :: tokens => nesting tokens

theorem nesting_append (tokens more : List Token) :
    nesting (tokens ++ more) = nesting tokens + nesting more := by
  induction tokens with
  | nil => simp [nesting]
  | cons token tokens ih =>
    cases token <;> simp only [List.cons_append, nesting, ih] <;> omega

mutual

theorem nesting_spelling : ∀ tree : Tree, nesting tree.spelling = 0
  | .ident _ => rfl
  | .punct _ _ => rfl
  | .literal _ => rfl
  | .group _ body => by
    simp [Tree.spelling, nesting, nesting_append, nesting_spellings body]

theorem nesting_spellings : ∀ trees : List Tree, nesting (Tree.spellings trees) = 0
  | [] => rfl
  | tree :: trees => by
    rw [Tree.spellings, nesting_append, nesting_spelling tree, nesting_spellings trees,
      Int.add_zero]

end

namespace Lexer

/-! ### The tokens of a text -/

/-- The tokens of a text, where a byte order mark is none. -/
def tokensOf (cs : List Char) : Option (List Token) := tokensWithin cs.length cs

section

variable {cs rest after taken left : List Char} {tokens : List Token}

theorem tokensWithin_eq_tokensOf {fuel : Nat} (enough : cs.length ≤ fuel) :
    tokensWithin fuel cs = tokensOf cs := by
  rw [tokensOf, tokensWithin_eq, tokensWithin_eq]
  congr 1
  ext read
  rw [lexemesWithin_iff enough, lexemesWithin_iff (Nat.le_refl _)]

theorem tokens_eq_tokensOf (cs : List Char) : Lexer.tokens cs = tokensOf (withoutMark cs) := by
  cases cs with
  | nil => rfl
  | cons c rest =>
    rw [Lexer.tokens, withoutMark]
    split <;> rfl

theorem tokensOf_nil : tokensOf [] = some [] := rfl

theorem takes_of_step (front : step cs = some (tokens, rest)) : Takes cs rest := by
  obtain ⟨read, front, -⟩ := step_eq_some_iff.mp front
  exact takes_of_lexemeStep front

theorem Takes.length_lt (takes : Takes cs rest) : rest.length < cs.length := by
  obtain ⟨taken, written, rfl⟩ := takes
  have positive := List.length_pos_of_ne_nil written
  rw [List.length_append]
  omega

theorem tokensOf_of_front (front : step cs = some (tokens, rest)) :
    tokensOf cs = (tokensOf rest).map (tokens ++ ·) := by
  have shorter := (takes_of_step front).length_lt
  cases cs with
  | nil => cases front
  | cons c more =>
    rw [tokensOf, List.length_cons, tokensWithin, front]
    · rw [List.length_cons] at shorter
      exact congrArg (Option.map (tokens ++ ·))
        (tokensWithin_eq_tokensOf (Nat.le_of_lt_succ shorter))
    · simp

theorem tokensOf_of_stuck (stuck : step cs = none) (written : cs ≠ []) : tokensOf cs = none := by
  cases cs with
  | nil => exact absurd rfl written
  | cons c more =>
    rw [tokensOf, List.length_cons, tokensWithin, stuck]
    simp

/-- Texts are read from the front, one step after the other. -/
theorem induction_steps {motive : List Char → Prop} (nil : motive [])
    (stuck : ∀ cs, cs ≠ [] → step cs = none → motive cs)
    (front : ∀ cs tokens rest, step cs = some (tokens, rest) → motive rest → motive cs)
    (cs : List Char) : motive cs := by
  induction size : cs.length using Nat.strong_induction_on generalizing cs with
  | _ size ih =>
    by_cases written : cs = []
    · exact written ▸ nil
    · cases found : step cs with
      | none => exact stuck cs written found
      | some s =>
        have shorter := (takes_of_step found).length_lt
        exact front cs s.1 s.2 found (ih s.2.length (size ▸ shorter) s.2 rfl)

/-! ### Line comments at the end -/

/-- A line comment and nothing behind it. -/
def isOpenLine (cs : List Char) : Bool := ['/', '/'].isPrefixOf cs && !cs.contains '\n'

def endsInLineWithin : Nat → List Char → Bool
  | 0, _ => false
  | fuel + 1, cs =>
    isOpenLine cs ||
      match step cs with
      | some (_, rest) => endsInLineWithin fuel rest
      | none => false

/-- Whether the last that a text consists of is a line comment. -/
def endsInLine (cs : List Char) : Bool := endsInLineWithin cs.length cs

theorem endsInLineWithin_nil (fuel : Nat) : endsInLineWithin fuel [] = false := by
  cases fuel <;> rfl

theorem endsInLineWithin_eq {fuel : Nat} (enough : cs.length ≤ fuel) :
    endsInLineWithin fuel cs = endsInLine cs := by
  induction cs using induction_steps generalizing fuel with
  | nil => rw [endsInLine, endsInLineWithin_nil, endsInLineWithin_nil]
  | stuck cs written stuck =>
    have positive := List.length_pos_of_ne_nil written
    obtain ⟨fuel, rfl⟩ : ∃ n, fuel = n + 1 := ⟨fuel - 1, by omega⟩
    obtain ⟨size, same⟩ : ∃ n, cs.length = n + 1 := ⟨cs.length - 1, by omega⟩
    rw [endsInLine, same, endsInLineWithin, endsInLineWithin, stuck]
  | front cs tokens rest front ih =>
    have shorter := (takes_of_step front).length_lt
    obtain ⟨fuel, rfl⟩ : ∃ n, fuel = n + 1 := ⟨fuel - 1, by omega⟩
    obtain ⟨size, same⟩ : ∃ n, cs.length = n + 1 := ⟨cs.length - 1, by omega⟩
    rw [endsInLine, same, endsInLineWithin, endsInLineWithin, front]
    simp only
    rw [ih (by omega : rest.length ≤ fuel), ih (by omega : rest.length ≤ size)]

theorem endsInLine_of_stuck (stuck : step cs = none) : endsInLine cs = isOpenLine cs := by
  cases cs with
  | nil => rfl
  | cons c more =>
    rw [endsInLine, List.length_cons, endsInLineWithin, stuck]
    exact Bool.or_false _

theorem endsInLine_of_front (front : step cs = some (tokens, rest)) :
    endsInLine cs = (isOpenLine cs || endsInLine rest) := by
  have shorter := (takes_of_step front).length_lt
  obtain ⟨size, same⟩ : ∃ n, cs.length = n + 1 := ⟨cs.length - 1, by omega⟩
  rw [endsInLine, same, endsInLineWithin, front]
  exact congrArg (isOpenLine cs || ·) (endsInLineWithin_eq (by omega))

theorem isOpenLine_iff {body : List Char} :
    isOpenLine ('/' :: '/' :: body) = true ↔ '\n' ∉ body := by
  simp [isOpenLine, List.isPrefixOf]

/-! ### One step -/

/-- The last mark is joined to what comes behind it. -/
inductive Rejoined (after : List Char) : List Token → List Token → Prop
  | same (tokens : List Token) : Rejoined after tokens tokens
  | last (before : List Token) (mark : Char) (joint : Bool) (marked : (mark? after).isSome) :
      Rejoined after (before ++ [.punct mark joint]) (before ++ [.punct mark true])

theorem Rejoined.prepend {tokens' : List Token} (rejoined : Rejoined after tokens tokens')
    (first : List Token) : Rejoined after (first ++ tokens) (first ++ tokens') := by
  cases rejoined with
  | same => exact .same _
  | last before mark joint marked =>
    rw [← List.append_assoc, ← List.append_assoc]
    exact .last _ mark joint marked

theorem Rejoined.eq {tokens' : List Token} (rejoined : Rejoined after tokens tokens')
    (unmarked : mark? after = none) : tokens' = tokens := by
  cases rejoined with
  | same => rfl
  | last before mark joint marked =>
    rw [unmarked] at marked
    cases marked

theorem Leaf.append {token : Token} (leaf : Leaf cs token rest) (ends : Stops after) :
    ∃ token', Leaf (cs ++ after) token' (rest ++ after) ∧
      (token' = token ∨ rest = [] ∧ Rejoined after [token] [token']) := by
  have suffixed (s : Scanned) :
      withSuffix (s.1, s.2 ++ after) = (withSuffix s).before after := withSuffix_before s ends
  cases leaf with
  | @string s found =>
    obtain ⟨-, split, again⟩ := closed_quoted? cs s.1 s.2 found
    have found' := Leaf.string (again (s.2 ++ after))
    rw [suffixed, ← List.append_assoc, ← split] at found'
    exact ⟨_, found', .inl rfl⟩
  | @character s found =>
    obtain ⟨-, split, again⟩ := closed_character? cs s.1 s.2 found
    have found' := Leaf.character (again (s.2 ++ after))
    rw [suffixed, ← List.append_assoc, ← split] at found'
    exact ⟨_, found', .inl rfl⟩
  | number found =>
    refine ⟨_, .number ?_, .inl rfl⟩
    rw [bounded_number? cs after ends, found]
    rfl
  | mark found =>
    have written : cs ≠ [] := by
      rintro rfl
      cases found
    refine ⟨rejoin rest after token, .mark (by rw [punct?_append written ends, found]; rfl), ?_⟩
    cases token with
    | punct mark joint =>
      by_cases last : rest = []
      · cases marked : (mark? after).isSome with
        | false =>
          have unmarked : mark? after = none := Option.not_isSome_iff_eq_none.mp (by simp [marked])
          exact .inl (rejoin_of_unmarked unmarked found)
        | true =>
          refine .inr ⟨last, ?_⟩
          rw [rejoin, if_pos last, marked]
          exact .last [] mark joint marked
      · exact .inl (by rw [rejoin, if_neg last])
    | _ => exact .inl rfl
  | name found =>
    refine ⟨_, .name ?_, .inl rfl⟩
    rw [bounded_ident? cs after ends, found]
    rfl

theorem isDocLine_append (body : List Char) (ends : Stops after) :
    isDocLine (body ++ after) = isDocLine body := by
  rw [Bool.eq_iff_iff, isDocLine_iff, isDocLine_iff, ends.head?_append (by decide),
    ends.head?_append (by decide)]
  refine or_congr_right (and_congr_right fun slash => ?_)
  obtain ⟨body, rfl⟩ := List.head?_eq_some_iff.mp slash
  exact not_congr (ends.head?_append (by decide))

theorem isDocBlock_append (body : List Char) (ends : Stops after) :
    isDocBlock (body ++ after) = isDocBlock body := by
  rw [Bool.eq_iff_iff, isDocBlock_iff, isDocBlock_iff, ends.head?_append (by decide),
    ends.head?_append (by decide)]
  refine or_congr_right (and_congr_right fun star => ?_)
  obtain ⟨body, rfl⟩ := List.head?_eq_some_iff.mp star
  exact and_congr (not_congr (ends.head?_append (by decide)))
    (not_congr (ends.head?_append (by decide)))

/-- What stands behind a line feed is no part of the line. -/
theorem toLineEnd_of_fed (fed : '\n' ∈ cs) (after : List Char) :
    toLineEnd (cs ++ after) = (toLineEnd cs).before after := by
  fun_induction toLineEnd cs with
  | case1 => cases fed
  | case2 | case3 => rfl
  | case4 c rest unfed kept ih =>
    have fed : '\n' ∈ rest := by simpa [Ne.symm unfed] using fed
    rw [List.cons_append, toLineEnd, ih fed]
    · rfl
    · exact unfed
    · intro more returned same
      cases rest with
      | nil => cases fed
      | cons d rest =>
        cases same
        exact kept rest returned rfl

/-- A line comment goes on into what comes behind it. -/
theorem toLineEnd_of_unfed (unfed : '\n' ∉ cs) (after : List Char) :
    (toLineEnd (cs ++ after)).2 = (toLineEnd after).2 := by
  induction cs with
  | nil => rfl
  | cons c cs ih =>
    rw [List.mem_cons, not_or] at unfed
    by_cases long : c = '\r' ∧ (cs ++ after).head? = some '\n'
    · obtain ⟨rfl, first⟩ := long
      cases cs with
      | nil =>
        obtain ⟨more, rfl⟩ := List.head?_eq_some_iff.mp first
        rfl
      | cons d cs => exact absurd (Option.some.inj first ▸ List.mem_cons_self) unfed.2
    · rw [List.cons_append, toLineEnd]
      · exact ih unfed.2
      · exact Ne.symm unfed.1
      · rintro more returned same
        exact long ⟨returned, by rw [same]; rfl⟩

theorem lexemeStep_line_append {body : List Char} (ends : Stops after)
    (fed : '\n' ∈ body) : lexemeStep ('/' :: '/' :: (body ++ after)) =
      (lexemeStep ('/' :: '/' :: body)).map fun (read, rest) => (read, rest ++ after) := by
  rw [lexemeStep_line, lexemeStep_line, isDocLine_append body ends]
  cases documents : isDocLine body with
  | false => simp [toLineEnd_of_fed fed, Scanned.before]
  | true =>
    have opened := (isDocLine_iff body).mp documents
    cases body with
    | nil => cases fed
    | cons c body =>
      have other : '\n' ≠ c := by
        rintro rfl
        simp at opened
      have fed : '\n' ∈ body := by simpa [other] using fed
      simp [documented, toLineEnd_of_fed fed, Scanned.before]

theorem lexemeStep_block_append {body : List Char} {read : List Lexeme} (ends : Stops after)
    (front : lexemeStep ('/' :: '*' :: body) = some (read, rest)) :
    lexemeStep ('/' :: '*' :: (body ++ after)) = some (read, rest ++ after) := by
  rw [lexemeStep_block] at front ⊢
  obtain ⟨⟨taken, left⟩, closed, front⟩ := Option.bind_eq_some_iff.mp front
  obtain ⟨-, split, again⟩ := closed_blockComment 0 _ _ _ closed
  have closed' := again (left ++ after)
  rw [← List.append_assoc, ← split] at closed'
  rw [show '/' :: '*' :: (body ++ after) = '/' :: '*' :: body ++ after from rfl, closed',
    Option.bind_some, isDocBlock_append body ends]
  cases documents : isDocBlock body with
  | false =>
    rw [documents] at front
    cases front
    rfl
  | true =>
    rw [documents] at front
    obtain ⟨paired, front⟩ := Option.ite_none_right_eq_some.mp front
    cases front
    have written : body ≠ [] := by
      rintro rfl
      cases documents
    obtain ⟨c, body, rfl⟩ := List.exists_cons_of_ne_nil written
    simp [documented, paired]

/-- What is read at the front of a text is read there in front of a stop, unless it is a line
comment or becomes a literal that could not be written. -/
theorem step_append (front : step cs = some (tokens, rest)) (ends : Stops after)
    (closed : isOpenLine cs = false) (unfailed : failed? cs = none → failed? (cs ++ after) = none) :
    ∃ tokens', step (cs ++ after) = some (tokens', rest ++ after) ∧
      (tokens' = tokens ∨ rest = [] ∧ Rejoined after tokens tokens') := by
  cases stepped_iff.mp front with
  | blank space => exact ⟨[], stepped_iff.mpr (.blank space), .inl rfl⟩
  | @line body _ _ _ =>
    have fed : '\n' ∈ body := by
      by_contra unfed
      rw [isOpenLine_iff.mpr unfed] at closed
      cases closed
    obtain ⟨read, found, rfl⟩ := step_eq_some_iff.mp front
    refine ⟨_, step_eq_some_iff.mpr ⟨read, ?_, rfl⟩, .inl rfl⟩
    rw [List.cons_append, List.cons_append, lexemeStep_line_append ends fed, found]
    rfl
  | @block body _ _ _ =>
    obtain ⟨read, found, rfl⟩ := step_eq_some_iff.mp front
    refine ⟨_, step_eq_some_iff.mpr ⟨read, ?_, rfl⟩, .inl rfl⟩
    rw [List.cons_append, List.cons_append, lexemeStep_block_append ends found]
  | failed =>
    refine ⟨_, ?_, .inl rfl⟩
    rw [List.append_assoc]
    exact step_failed _
  | bracket found other =>
    exact ⟨_, step_bracket_of_failed? found (unfailed other), .inl rfl⟩
  | leaf found =>
    obtain ⟨token', found', same⟩ := found.append ends
    refine ⟨_, found'.step, ?_⟩
    rcases same with rfl | ⟨last, rejoined⟩
    · exact .inl rfl
    · exact .inr ⟨last, rejoined⟩

/-! ### Whole texts -/

/-- The text of a literal that could not be written, without its last bracket. -/
def failedOpening : List Char := "(/*ERROR*/".toList

theorem failed?_append (ends : Stops after) (other : after.head? = some ')' → cs ≠ failedOpening)
    (unfailed : failed? cs = none) : failed? (cs ++ after) = none := by
  rw [failed?, Option.map_eq_none_iff, isPrefixOf?_eq_none_iff] at unfailed ⊢
  by_cases closes : after.head? = some ')'
  · obtain ⟨more, rfl⟩ := List.head?_eq_some_iff.mp closes
    have split : failedLiteral.toList = failedOpening ++ [')'] := by decide
    have single : ')' ∉ failedOpening := by decide
    rw [← Bool.not_eq_true, List.isPrefixOf_iff_prefix] at unfailed ⊢
    rintro ⟨left, same⟩
    rcases List.append_eq_append_iff.mp same with ⟨rest, rfl, -⟩ | ⟨rest, whole, behind⟩
    · exact unfailed (List.prefix_append _ _)
    · cases rest with
      | nil => exact unfailed ⟨[], by rw [whole, List.append_nil, List.append_nil]⟩
      | cons c rest =>
        cases behind
        rw [split] at whole
        have inner := (List.append_cons_inj_of_notMem single (by simp)).mp whole
        exact other rfl inner.1.symm
  · have inner : ∀ c ∈ failedLiteral.toList, c = ')' ∨ isStop c = false :=
      Chars.forall_mem_of_all (by decide)
    rw [isPrefixOf_append, unfailed]
    intro c first member
    rcases inner c member with rfl | other
    · exact closes first
    · exact ne_of_isStop (ends c first) other rfl

/-- A text keeps its tokens in front of a stop. -/
theorem tokensOf_append (read : tokensOf cs = some tokens) (ends : Stops after)
    (closed : endsInLine cs = false)
    (unopened : after.head? = some ')' → tokens.getLast? ≠ some (.opening .parenthesis)) :
    ∃ tokens', Rejoined after tokens tokens' ∧
      tokensOf (cs ++ after) = (tokensOf after).map (tokens' ++ ·) := by
  induction cs using induction_steps generalizing tokens with
  | nil =>
    cases read
    exact ⟨[], .same _, by simp⟩
  | stuck cs written stuck =>
    rw [tokensOf_of_stuck stuck written] at read
    cases read
  | front cs first rest front ih =>
    rw [endsInLine_of_front front, Bool.or_eq_false_iff] at closed
    have other : after.head? = some ')' → cs ≠ failedOpening := by
      rintro closes rfl
      have alone : tokensOf failedOpening = some [.opening .parenthesis] := by decide +kernel
      cases alone.symm.trans read
      exact unopened closes rfl
    obtain ⟨first', front', same⟩ :=
      step_append front ends closed.1 (failed?_append ends other)
    rw [tokensOf_of_front front, Option.map_eq_some_iff] at read
    obtain ⟨more, read, rfl⟩ := read
    rw [tokensOf_of_front front']
    rcases same with rfl | ⟨rfl, rejoined⟩
    · have unopened' : after.head? = some ')' → more.getLast? ≠ some (.opening .parenthesis) := by
        intro closes last
        exact unopened closes (by rw [List.getLast?_append, last]; rfl)
      obtain ⟨more', rejoined, read'⟩ := ih read closed.2 unopened'
      refine ⟨first' ++ more', rejoined.prepend first', ?_⟩
      rw [read', Option.map_map]
      simp [Function.comp_def]
    · cases read
      exact ⟨first', by simpa using rejoined, by simp⟩

/-- The attribute that a comment stands for if it documents something, and else nothing. -/
inductive Documents : Bool → List Token → Prop
  | plain : Documents false []
  | doc (comment : DocComment) : Documents true comment.tokens

theorem step_open_line {body : List Char} (unfed : '\n' ∉ body) (ends : Stops after)
    (front : step ('/' :: '/' :: (body ++ after)) = some (tokens, rest)) :
    Documents (isDocLine body) tokens ∧ rest = (toLineEnd after).2 := by
  rw [step_eq_lexemeStep, lexemeStep_line, isDocLine_append body ends] at front
  obtain ⟨⟨read, left⟩, front, same⟩ := Option.map_eq_some_iff.mp front
  cases same
  cases documents : isDocLine body with
  | false =>
    rw [documents] at front
    cases front
    exact ⟨.plain, toLineEnd_of_unfed unfed after⟩
  | true =>
    rw [documents] at front
    obtain ⟨-, front⟩ := Option.ite_none_right_eq_some.mp front
    cases front
    cases body with
    | nil => cases documents
    | cons c body =>
      refine ⟨?_, toLineEnd_of_unfed (List.not_mem_of_not_mem_cons unfed) after⟩
      rw [List.flatMap_singleton]
      exact .doc _

/-- A line comment at the end of a text takes what comes behind it on the line. -/
theorem tokensOf_append_line (line : endsInLine cs = true) :
    ∃ front documents, ∀ after tokens, Stops after → tokensOf (cs ++ after) = some tokens →
      ∃ doc more, Documents documents doc ∧ tokens = front ++ (doc ++ more) ∧
        tokensOf (toLineEnd after).2 = some more := by
  have here {cs : List Char} (line : isOpenLine cs = true) : ∃ documents, ∀ after tokens,
      Stops after → tokensOf (cs ++ after) = some tokens →
      ∃ doc more, Documents documents doc ∧ tokens = [] ++ (doc ++ more) ∧
        tokensOf (toLineEnd after).2 = some more := by
    obtain ⟨body, rfl⟩ : ∃ body, cs = '/' :: '/' :: body := by
      rw [isOpenLine, Bool.and_eq_true, List.isPrefixOf_iff_prefix] at line
      obtain ⟨⟨body, rfl⟩, -⟩ := line
      exact ⟨body, rfl⟩
    have unfed := isOpenLine_iff.mp line
    refine ⟨isDocLine body, fun after tokens ends read => ?_⟩
    cases front : step ('/' :: '/' :: (body ++ after)) with
    | none =>
      rw [List.cons_append, List.cons_append, tokensOf_of_stuck front (by simp)] at read
      cases read
    | some s =>
      rw [List.cons_append, List.cons_append, tokensOf_of_front front,
        Option.map_eq_some_iff] at read
      obtain ⟨more, read, rfl⟩ := read
      obtain ⟨documents, left⟩ := step_open_line unfed ends front
      exact ⟨s.1, more, documents, rfl, left ▸ read⟩
  induction cs using induction_steps with
  | nil => cases line
  | stuck cs written stuck =>
    rw [endsInLine_of_stuck stuck] at line
    exact ⟨[], here line⟩
  | front cs first rest front ih =>
    cases opened : isOpenLine cs with
    | true => exact ⟨[], here opened⟩
    | false =>
      have later := line
      rw [endsInLine_of_front front, opened, Bool.false_or] at later
      obtain ⟨front', documents, behind⟩ := ih later
      refine ⟨first ++ front', documents, fun after tokens ends read => ?_⟩
      have other : after.head? = some ')' → cs ≠ failedOpening := by
        rintro closes rfl
        have alone : endsInLine failedOpening = false := by decide +kernel
        cases alone.symm.trans line
      obtain ⟨first', stepped, same⟩ :=
        step_append front ends opened (failed?_append ends other)
      rcases same with rfl | ⟨rfl, -⟩
      · rw [tokensOf_of_front stepped, Option.map_eq_some_iff] at read
        obtain ⟨more, read, rfl⟩ := read
        obtain ⟨doc, more', commented, rfl, left⟩ := behind after more ends read
        exact ⟨doc, more', commented, by rw [List.append_assoc], left⟩
      · cases later

theorem nesting_of_documents {documents : Bool} (commented : Documents documents tokens) :
    nesting tokens = 0 := by
  cases commented with
  | plain => rfl
  | doc comment =>
    obtain ⟨inner, text, rest⟩ := comment
    cases inner <;> rfl

/-- A text ends in no line comment if brackets close behind it, on the same line. -/
theorem not_endsInLine_of_nesting {whole : List Token} (ends : Stops after) (unfed : '\n' ∉ after)
    (read : tokensOf cs = some tokens) (read' : tokensOf (cs ++ after) = some whole)
    (closes : nesting whole ≠ nesting tokens) : endsInLine cs = false := by
  refine Bool.eq_false_iff.mpr fun line => closes ?_
  obtain ⟨front, documents, behind⟩ := tokensOf_append_line line
  obtain ⟨doc, more, commented, rfl, none⟩ := behind [] tokens stops_nil (by rwa [List.append_nil])
  obtain ⟨doc', more', commented', rfl, none'⟩ := behind after whole ends read'
  have swallowed : (toLineEnd after).2 = [] := by
    rw [← List.append_nil after, toLineEnd_of_unfed unfed]
    rfl
  rw [swallowed] at none'
  cases none
  cases none'
  simp [nesting_append, nesting_of_documents commented, nesting_of_documents commented']

/-! ### Texts that have no tokens -/

/-- A part of a text that ends with a character that does not come behind it. -/
theorem exists_inside {c : Char} {content : List Char} (split : cs ++ after = taken ++ left)
    (ends : taken = content ++ [c]) (absent : c ∉ after) :
    ∃ more, cs = taken ++ more ∧ left = more ++ after := by
  rcases List.append_eq_append_iff.mp split with ⟨more, whole, behind⟩ | ⟨more, whole, behind⟩
  · rcases List.eq_nil_or_concat more with rfl | ⟨more, d, rfl⟩
    · exact ⟨[], by simpa using whole.symm, by simpa using behind.symm⟩
    · rw [ends, List.concat_eq_append, ← List.append_assoc] at whole
      obtain ⟨-, same⟩ := List.append_inj' whole rfl
      cases same
      simp [behind] at absent
  · exact ⟨more, whole, behind⟩

theorem cookedString_ends {q : Quoted} {state : StringScan}
    (found : cookedString q state cs = some (taken, left)) :
    ∃ content, taken = content ++ ['"'] := by
  induction cs generalizing state taken with
  | nil => cases found
  | cons c cs ih =>
    rw [cookedString] at found
    split at found
    · cases found
      exact ⟨[], rfl⟩
    · split at found
      · have found : (cookedString q _ cs).map (Scanned.prepend [c]) = some (taken, left) := found
        exact ends_of_prepend found fun _ => ih
      · cases found

theorem quoted?_ends (found : quoted? cs = some (taken, left)) :
    ∃ content, ∃ c ∈ ['"', '#'], taken = content ++ [c] := by
  rcases quoted?_cases found with ⟨front, q, body, -, rfl, closes⟩ |
    ⟨front, q, n, body, -, -, rfl, closes⟩
  · obtain ⟨content, rfl⟩ := cookedString_ends closes
    exact ⟨front ++ content, '"', by simp, by simp⟩
  · obtain ⟨content, rfl⟩ := rawString_ends closes
    cases n with
    | zero => exact ⟨front ++ '"' :: content, '"', by simp, by simp⟩
    | succ n =>
      exact ⟨front ++ (List.replicate (n + 1) '#' ++
        '"' :: (content ++ '"' :: List.replicate n '#')), '#', by simp,
        by simp [List.replicate_succ']⟩

theorem character?_ends (found : character? cs = some (taken, left)) :
    ∃ content, taken = content ++ ['\''] := by
  unfold character? at found
  split at found
  · obtain ⟨s, closed, same⟩ := Option.map_eq_some_iff.mp found
    obtain ⟨s', -, closed⟩ := Option.bind_eq_some_iff.mp closed
    cases same
    exact ⟨['b', '\''] ++ s'.1, by simp [closeQuote_eq_some closed]⟩
  · obtain ⟨s, closed, same⟩ := Option.map_eq_some_iff.mp found
    obtain ⟨s', -, closed⟩ := Option.bind_eq_some_iff.mp closed
    cases same
    exact ⟨'\'' :: s'.1, by simp [closeQuote_eq_some closed]⟩
  · cases found

/-- A text that closes nothing: no string, character or block comment ends in it. -/
structure ClosesNothing (after : List Char) : Prop where
  stops : Stops after
  quote : '"' ∉ after
  hash : '#' ∉ after
  character : '\'' ∉ after
  comment : '/' ∉ after
  bracket : after.head? ≠ some ')'

theorem Leaf.of_append {token : Token} (closes : ClosesNothing after) (written : cs ≠ [])
    (leaf : Leaf (cs ++ after) token rest) : ∃ token' rest', Leaf cs token' rest' := by
  cases leaf with
  | @string s found =>
    obtain ⟨-, split, again⟩ := closed_quoted? _ s.1 s.2 found
    obtain ⟨content, c, listed, ends⟩ := quoted?_ends found
    have absent : c ∉ after := by
      simp only [List.mem_cons, List.not_mem_nil, or_false] at listed
      rcases listed with rfl | rfl
      · exact closes.quote
      · exact closes.hash
    obtain ⟨more, rfl, -⟩ := exists_inside split ends absent
    exact ⟨_, _, .string (again more)⟩
  | @character s found =>
    obtain ⟨-, split, again⟩ := closed_character? _ s.1 s.2 found
    obtain ⟨content, ends⟩ := character?_ends found
    obtain ⟨more, rfl, -⟩ := exists_inside split ends closes.character
    exact ⟨_, _, .character (again more)⟩
  | number found =>
    rw [bounded_number? cs after closes.stops] at found
    obtain ⟨s, found, -⟩ := Option.map_eq_some_iff.mp found
    exact ⟨_, _, .number found⟩
  | mark found =>
    rw [punct?_append written closes.stops] at found
    obtain ⟨s, found, -⟩ := Option.map_eq_some_iff.mp found
    exact ⟨_, _, .mark found⟩
  | name found =>
    rw [bounded_ident? cs after closes.stops] at found
    obtain ⟨s, found, -⟩ := Option.map_eq_some_iff.mp found
    exact ⟨_, _, .name found⟩

theorem lexemeStep_block_of_append {body : List Char} {read : List Lexeme}
    (closes : ClosesNothing after)
    (front : lexemeStep ('/' :: '*' :: (body ++ after)) = some (read, rest)) :
    lexemeStep ('/' :: '*' :: body) ≠ none := by
  rw [lexemeStep_block] at front ⊢
  obtain ⟨⟨taken, left⟩, closed, front⟩ := Option.bind_eq_some_iff.mp front
  obtain ⟨-, split, again⟩ := closed_blockComment 0 _ _ _ closed
  obtain ⟨content, ends⟩ := blockComment_ends closed
  have ends : taken = (content ++ ['*']) ++ ['/'] := by
    rw [ends, List.append_assoc]
    rfl
  have split : ('/' :: '*' :: body) ++ after = taken ++ left := split
  obtain ⟨more, whole, -⟩ := exists_inside split ends closes.comment
  have closed' := again more
  rw [← whole] at closed'
  rw [closed', Option.bind_some, ← isDocBlock_append body closes.stops]
  simp only at front ⊢
  split at front
  next documents =>
    obtain ⟨paired, -⟩ := Option.ite_none_right_eq_some.mp front
    rw [if_pos documents, documented, if_pos paired]
    exact Option.some_ne_none _
  next other =>
    rw [if_neg other]
    exact Option.some_ne_none _

/-- What is nothing at the front of a text is nothing in front of what closes nothing. -/
theorem step_append_of_stuck (stuck : step cs = none) (written : cs ≠ [])
    (closes : ClosesNothing after) (closed : isOpenLine cs = false) :
    step (cs ++ after) = none := by
  have unfailed : failed? cs = none := by
    rw [Option.eq_none_iff_forall_not_mem]
    intro s found
    obtain ⟨more, found, -⟩ := Option.map_eq_some_iff.mp found
    rw [List.isPrefixOf?_eq_some_iff_append_eq] at found
    rw [← found, step_failed] at stuck
    cases stuck
  have unfailed' := failed?_append closes.stops (absurd · closes.bracket) unfailed
  rw [Option.eq_none_iff_forall_not_mem]
  rintro ⟨tokens, rest⟩ front
  obtain ⟨c, cs, rfl⟩ := List.exists_cons_of_ne_nil written
  -- A comment's second character does not end a lexeme, so it was written before the border.
  have second {d : Char} {body : List Char} (other : isStop d = false)
      (same : cs ++ after = d :: body) :
      ∃ more, cs = d :: more ∧ body = more ++ after := by
    cases cs with
    | nil => exact absurd (congrArg List.head? same) (closes.stops.head?_ne other)
    | cons e more =>
      cases same
      exact ⟨more, rfl, rfl⟩
  generalize whole : c :: cs ++ after = ds at front unfailed'
  cases stepped_iff.mp front with
  | blank space =>
    cases whole
    rw [stepped_iff.mpr (.blank space)] at stuck
    cases stuck
  | @line body _ _ _ =>
    obtain ⟨rfl, same⟩ := List.cons.inj whole
    obtain ⟨body, rfl, rfl⟩ := second (by decide) same
    have fed : '\n' ∈ body := by
      by_contra unfed
      rw [isOpenLine_iff.mpr unfed] at closed
      cases closed
    rw [step_eq_lexemeStep, Option.map_eq_none_iff] at stuck
    rw [step_eq_lexemeStep, lexemeStep_line_append closes.stops fed, stuck] at front
    cases front
  | @block body _ _ _ =>
    obtain ⟨rfl, same⟩ := List.cons.inj whole
    obtain ⟨body, rfl, rfl⟩ := second (by decide) same
    rw [step_eq_lexemeStep, Option.map_eq_none_iff] at stuck
    obtain ⟨read, front, -⟩ := step_eq_some_iff.mp front
    exact lexemeStep_block_of_append closes front stuck
  | @failed left => simp [failed?, List.isPrefixOf?_eq_some_iff_append_eq.mpr] at unfailed'
  | bracket found other =>
    cases whole
    rw [step_bracket_of_failed? found unfailed] at stuck
    cases stuck
  | leaf found =>
    subst whole
    obtain ⟨_, _, leaf⟩ := found.of_append closes (by simp)
    rw [leaf.step] at stuck
    cases stuck

/-- In front of what closes nothing, a text has the tokens that it has alone. -/
theorem tokensOf_append_closing (closes : ClosesNothing after) (unmarked : mark? after = none)
    (closed : endsInLine cs = false) :
    tokensOf (cs ++ after) =
      (tokensOf cs).bind fun tokens => (tokensOf after).map (tokens ++ ·) := by
  cases read : tokensOf cs with
  | some tokens =>
    obtain ⟨tokens', rejoined, read'⟩ :=
      tokensOf_append read closes.stops closed (absurd · closes.bracket)
    rw [read', rejoined.eq unmarked]
    rfl
  | none =>
    induction cs using induction_steps with
    | nil => cases read
    | stuck cs written stuck =>
      rw [endsInLine_of_stuck stuck] at closed
      exact tokensOf_of_stuck (step_append_of_stuck stuck written closes closed) (by simp [written])
    | front cs first rest front ih =>
      rw [endsInLine_of_front front, Bool.or_eq_false_iff] at closed
      rw [tokensOf_of_front front, Option.map_eq_none_iff] at read
      obtain ⟨first', front', -⟩ := step_append front closes.stops closed.1
        (failed?_append closes.stops (absurd · closes.bracket))
      rw [tokensOf_of_front front', ih closed.2 read]
      rfl

/-! ### Blanks -/

theorem tokensOf_blank {c : Char} (space : isSpace c = true) (cs : List Char) :
    tokensOf (c :: cs) = tokensOf cs := by
  rw [tokensOf_of_front (stepped_iff.mpr (.blank space))]
  simp

theorem tokensOf_blanks (blank : ∀ c ∈ cs, isSpace c = true) (after : List Char) :
    tokensOf (cs ++ after) = tokensOf after := by
  induction cs with
  | nil => rfl
  | cons c cs ih =>
    rw [List.cons_append, tokensOf_blank (blank c List.mem_cons_self),
      ih fun d member => blank d (List.mem_cons_of_mem _ member)]

theorem not_mem_of_blank (blank : ∀ c ∈ cs, isSpace c = true) {d : Char}
    (visible : isSpace d = false) : d ∉ cs := by
  intro member
  rw [blank d member] at visible
  cases visible

theorem closesNothing_of_blank (blank : ∀ c ∈ cs, isSpace c = true) : ClosesNothing cs where
  stops c first := Bool.or_eq_true_iff.mpr (.inl (blank c (List.mem_of_mem_head? first)))
  quote := not_mem_of_blank blank (by decide)
  hash := not_mem_of_blank blank (by decide)
  character := not_mem_of_blank blank (by decide)
  comment := not_mem_of_blank blank (by decide)
  bracket first := not_mem_of_blank blank (d := ')') (by decide) (List.mem_of_head? first)

theorem mark?_of_isSpace {c : Char} (space : isSpace c = true) (cs : List Char) :
    mark? (c :: cs) = none := by
  have visible : ∀ d ∈ marks, isSpace d = false := Chars.forall_mem_of_all (by decide)
  have absent : c ∉ marks := by
    intro member
    rw [visible c member] at space
    cases space
  simp [mark?, absent]

theorem mark?_of_blank (blank : ∀ c ∈ cs, isSpace c = true) : mark? cs = none := by
  cases cs with
  | nil => rfl
  | cons c cs => exact mark?_of_isSpace (blank c List.mem_cons_self) cs

/-- Blanks at the end of a text are no tokens, unless a line comment goes on into them. -/
theorem tokensOf_append_blanks (blank : ∀ c ∈ after, isSpace c = true)
    (closed : endsInLine cs = false) : tokensOf (cs ++ after) = tokensOf cs := by
  have nothing : tokensOf after = some [] := by
    rw [← List.append_nil after, tokensOf_blanks blank]
    rfl
  rw [tokensOf_append_closing (closesNothing_of_blank blank) (mark?_of_blank blank) closed, nothing]
  cases tokensOf cs <;> simp

/-- A byte order mark is a part of no other text. -/
theorem tokensOf_mark {c : Char} (mark : c.toNat = 0xFEFF) (cs : List Char) :
    tokensOf (c :: cs) = none :=
  tokensOf_of_stuck (step_of_mark mark cs) (by simp)

end

end Lexer

end Companion.Code

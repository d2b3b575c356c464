import Companion.Proofs.Code.Bindings
import Companion.Proofs.Code.Spliced

/-! Expressions in the texts that they are spliced into.

What stands around a fragment is read apart from it if the fragment neither begins with a byte
order mark nor ends in a line comment. Then the text holds the fragment as one expression if the
fragment is one alone.
-/

set_option autoImplicit false

namespace Companion.Code

/-! ### The trees of a text -/

/-- The trees of a part of a text, where a byte order mark stands for nothing. -/
def treesOf? (cs : List Char) : Option (List Tree) := (Lexer.tokensOf cs).bind Tree.ofTokens

theorem treesOf?_eq_some_iff {cs : List Char} {trees : List Tree} :
    treesOf? cs = some trees ↔ Lexer.tokensOf cs = some (Tree.spellings trees) := by
  constructor
  · intro found
    obtain ⟨tokens, read, closed⟩ := Option.bind_eq_some_iff.mp found
    rw [read, Tree.spellings_of_ofTokens closed]
  · intro read
    exact Option.bind_eq_some_iff.mpr ⟨_, read, Tree.ofTokens_iff.mpr rfl⟩

/-- What is spelled in front of other text is part of its tokens. -/
theorem Spells.tokensOf {cs after : List Char} {size : Nat} {trees : List Tree}
    (spelled : Spells cs after size trees) : size = weight trees ∧
      Lexer.tokensOf (cs ++ after) = (Lexer.tokensOf after).map (Tree.spellings trees ++ ·) := by
  obtain ⟨tokens, rfl, ⟨steps, bounded, lexed⟩, closed⟩ := spelled
  obtain rfl := Tree.spellings_of_ofTokens closed.whole
  have whole := lexed (cs.length - steps + after.length)
  have size : (cs ++ after).length ≤ steps + (cs.length - steps + after.length) := by
    rw [List.length_append]
    omega
  rw [Lexer.tokensWithin_eq_tokensOf size,
    Lexer.tokensWithin_eq_tokensOf (Nat.le_add_left _ _)] at whole
  exact ⟨rfl, whole⟩

theorem withoutMark_of_visible {cs : List Char} (visible : Visible cs) : withoutMark cs = cs := by
  obtain ⟨c, more, rfl, -, unmarked⟩ := visible
  rw [withoutMark, if_neg unmarked]

theorem all?_isSome_iff {α : Type} {reader : Reader α} {trees : List Tree} :
    (Reader.all? reader trees).isSome = true ↔ ∃ a, reader.run trees = some (a, []) := by
  unfold Reader.all?
  split
  next a read => simp [read]
  next other =>
    refine iff_of_false nofun ?_
    rintro ⟨a, read⟩
    exact other a read

/-- A production reads a text if it reads all of its trees on a level that is deep enough. -/
theorem parse?_isSome_iff {α : Type} {production : Grammar → Reader α} {text : String} :
    (parse? production text).isSome = true ↔ ∃ trees a,
      treesOf? (withoutMark text.toList) = some trees ∧
        (production (.level (3 * weight trees + 8))).run trees = some (a, []) := by
  have covering (trees : List Tree) :
      Grammar.covering (Tree.spellings trees) = .level (3 * weight trees + 8) := rfl
  constructor
  · intro parsed
    obtain ⟨a, parsed⟩ := Option.isSome_iff_exists.mp parsed
    obtain ⟨tokens, read, parsed⟩ := Option.bind_eq_some_iff.mp parsed
    obtain ⟨trees, closed, parsed⟩ := Option.bind_eq_some_iff.mp parsed
    obtain rfl := Tree.spellings_of_ofTokens closed
    obtain ⟨b, whole⟩ := all?_isSome_iff.mp (Option.isSome_of_mem parsed)
    rw [Lexer.tokens_eq_tokensOf] at read
    exact ⟨trees, b, treesOf?_eq_some_iff.mpr read, whole⟩
  · rintro ⟨trees, a, found, whole⟩
    obtain ⟨b, parsed⟩ := Option.isSome_iff_exists.mp (all?_isSome_iff.mpr ⟨a, whole⟩)
    have read := treesOf?_eq_some_iff.mp found
    rw [← Lexer.tokens_eq_tokensOf] at read
    refine Option.isSome_iff_exists.mpr ⟨b, Option.bind_eq_some_iff.mpr ⟨_, read, ?_⟩⟩
    exact Option.bind_eq_some_iff.mpr ⟨trees, Tree.ofTokens_iff.mpr rfl, parsed⟩

/-! ### Expressions in their places -/

/-- The trees in their place are those of the fragment, and what is read there as an expression is
all of them. -/
def IsExprAt (g : Grammar) (stopped : Bool) (alone placed : List Tree) : Prop :=
  Placed stopped alone placed ∧
    ∃ e left, (g.expr true).run placed = some (e, left) ∧ Placed stopped [] left

/-- All of the trees are one expression. -/
def IsWholeExpr (trees : List Tree) : Prop :=
  ∃ e, ((Grammar.level (3 * weight trees + 8)).expr true).run trees = some (e, [])

theorem Placed.ends {stopped : Bool} {ts left : List Tree} (placed : Placed stopped ts left)
    (ends : Placed stopped [] left) : ts = [] := by
  have long := placed.length_eq
  have long' := ends.length_eq
  exact List.length_eq_zero_iff.mp (by rw [List.length_nil] at long'; omega)

/-- Deep levels read an expression in its place as they read it alone. -/
theorem isExprAt_iff {stopped : Bool} {alone placed : List Tree} {depth : Nat}
    (deep : 2 * (weight alone + 1) ≤ depth) : IsExprAt (.level depth) stopped alone placed ↔
      Placed stopped alone placed ∧ IsWholeExpr alone := by
  refine and_congr_right fun isPlaced => ?_
  have deep' : 2 * (weight alone + 1) ≤ 3 * weight alone + 8 := by omega
  have same := ((agree_level deep' deep).expr stopped true).run isPlaced (Nat.lt_succ_self _)
  rw [IsWholeExpr]
  generalize ((Grammar.level (3 * weight alone + 8)).expr true).run alone = found,
    ((Grammar.level depth).expr true).run placed = found' at same
  cases same with
  | none => simp
  | @some r r' same =>
    obtain ⟨e, left⟩ := r
    obtain ⟨e', left'⟩ := r'
    obtain ⟨rfl, isPlaced', -, -⟩ := same
    simp only [Option.some.injEq, Prod.mk.injEq]
    constructor
    · rintro ⟨_, _, ⟨rfl, rfl⟩, ends⟩
      exact ⟨_, rfl, isPlaced'.ends ends⟩
    · rintro ⟨_, rfl, rfl⟩
      exact ⟨_, _, ⟨rfl, rfl⟩, isPlaced'⟩

theorem IsWholeExpr.ne_nil {trees : List Tree} (whole : IsWholeExpr trees) : trees ≠ [] := by
  rintro rfl
  obtain ⟨e, read⟩ := whole
  cases read

theorem isExpr_iff {text : String} : isExpr text = true ↔
    ∃ trees, treesOf? (withoutMark text.toList) = some trees ∧ IsWholeExpr trees := by
  rw [isExpr, parse?_isSome_iff]
  constructor
  · rintro ⟨trees, e, found, whole⟩
    exact ⟨trees, found, e, whole⟩
  · rintro ⟨trees, found, e, whole⟩
    exact ⟨trees, e, found, whole⟩

/-- A production reads the text whole, and in it the fragment as one expression: `around` is what
the trees of the fragment stand in, in front of a semicolon if the fragment is `stopped` by one. -/
def HoldsExpr {α : Type} (production : Grammar → Reader α) (text : String) (stopped : Bool)
    (around : List Tree → List Tree) (fragment : String) : Prop :=
  (parse? production text).isSome = true ∧ ∃ tokens alone placed,
    Lexer.tokens text.toList = some tokens ∧ Tree.ofTokens tokens = some (around placed) ∧
      treesOf? fragment.toList = some alone ∧ IsExprAt (.covering tokens) stopped alone placed

/-! ### The end of a fragment -/

namespace Placed

variable {stopped : Bool} {ts ts' : List Tree}

theorem weight_eq (placed : Placed stopped ts ts') : weight ts' = weight ts + stopped.toNat := by
  induction placed with
  | alone => rfl
  | stop | last => simp [Tree.spelling]
  | cons tree rest ih => rw [weight_cons, weight_cons, ih, Nat.add_assoc]

theorem spellings_stopped (placed : Placed true ts ts') :
    ∃ front joint, Tree.spellings ts' = front ++ [.punct ';' joint] := by
  generalize stops : true = stopped at placed
  induction placed with
  | alone => cases stops
  | stop joint => exact ⟨[], joint, rfl⟩
  | last mark joint joint' joint'' => exact ⟨[.punct mark joint'], joint'', rfl⟩
  | cons tree rest ih =>
    obtain ⟨front, joint, same⟩ := ih stops
    exact ⟨tree.spelling ++ front, joint, by rw [Tree.spellings, same, List.append_assoc]⟩

theorem append_stop (ts : List Tree) (joint : Bool) :
    Placed true ts (ts ++ [.punct ';' joint]) := by
  induction ts with
  | nil => exact .stop joint
  | cons tree ts ih => exact .cons tree ih

theorem append_last (ts : List Tree) (mark : Char) (joint joint' joint'' : Bool) :
    Placed true (ts ++ [.punct mark joint]) (ts ++ [.punct mark joint', .punct ';' joint'']) := by
  induction ts with
  | nil => exact .last mark joint joint' joint''
  | cons tree ts ih => exact .cons tree ih

end Placed

namespace Tree

/-- The last token of a tree is the tree itself, or a closing bracket. -/
theorem exists_last (tree : Tree) : ∃ front token, tree.spelling = front ++ [token] ∧
    (∀ d, token ≠ .opening d) ∧
      ∀ mark joint, token = .punct mark joint → tree = .punct mark joint := by
  cases tree with
  | ident => exact ⟨[], _, rfl, nofun, nofun⟩
  | punct =>
    refine ⟨[], _, rfl, nofun, fun mark joint same => ?_⟩
    cases same
    rfl
  | literal => exact ⟨[], _, rfl, nofun, nofun⟩
  | group d body => exact ⟨.opening d :: spellings body, .closing d, rfl, nofun, nofun⟩

/-- The last token of trees is the last tree, or a closing bracket. -/
theorem last_of_spellings {trees : List Tree} {token : Token}
    (last : (spellings trees).getLast? = some token) :
    (∀ d, token ≠ .opening d) ∧ ∀ mark joint, token = .punct mark joint →
      ∃ before, trees = before ++ [.punct mark joint] := by
  rcases List.eq_nil_or_concat trees with rfl | ⟨before, tree, rfl⟩
  · cases last
  · obtain ⟨front, token', same, unopened, marked⟩ := exists_last tree
    rw [List.concat_eq_append, spellings_append, spellings, spellings, List.append_nil, same,
      ← List.append_assoc, List.getLast?_concat] at last
    cases last
    refine ⟨unopened, fun mark joint same => ⟨before, ?_⟩⟩
    rw [List.concat_eq_append, marked mark joint same]

end Tree

/-- The trees of a fragment in front of a semicolon. -/
theorem exists_placed {after : List Char} {alone : List Tree} {tokens : List Token} (joint : Bool)
    (rejoined : Lexer.Rejoined after (Tree.spellings alone) tokens) :
    ∃ placed, Tree.spellings placed = tokens ++ [.punct ';' joint] ∧ Placed true alone placed := by
  generalize same : Tree.spellings alone = tokens' at rejoined
  cases rejoined with
  | same =>
    refine ⟨alone ++ [.punct ';' joint], ?_, .append_stop alone joint⟩
    rw [Tree.spellings_append, same]
    rfl
  | last before mark joint' =>
    have last : (Tree.spellings alone).getLast? = some (.punct mark joint') := by
      rw [same, List.getLast?_concat]
    obtain ⟨front, rfl⟩ := (Tree.last_of_spellings last).2 mark joint' rfl
    refine ⟨front ++ [.punct mark true, .punct ';' joint], ?_, .append_last front mark _ _ _⟩
    rw [Tree.spellings_append] at same ⊢
    obtain ⟨rfl, -⟩ := List.append_inj' same rfl
    simp [Tree.spellings, Tree.spelling]

section

variable {fragment : List Char} {alone : List Tree}

/-- A semicolon comes behind a fragment unless that ends in a line comment. -/
theorem exists_placed_iff_stop (found : treesOf? fragment = some alone) :
    (∃ placed, Placed true alone placed ∧
      Lexer.tokensOf (fragment ++ [';']) = some (Tree.spellings placed ++ [])) ↔
        Lexer.endsInLine fragment = false := by
  have read := treesOf?_eq_some_iff.mp found
  have stop : Lexer.Stops [';'] := Lexer.stops_cons (by decide) []
  constructor
  · rintro ⟨placed, isPlaced, lexed⟩
    refine Bool.eq_false_iff.mpr fun line => ?_
    obtain ⟨front, documents, behind⟩ := Lexer.tokensOf_append_line line
    obtain ⟨doc, more, commented, same, nothing⟩ := behind [] (Tree.spellings alone)
      Lexer.stops_nil (by rwa [List.append_nil])
    obtain ⟨doc', more', commented', same', nothing'⟩ := behind _ _ stop lexed
    cases nothing
    cases nothing'
    -- Without the semicolon the tokens are too few, or the last of them is of a comment.
    obtain ⟨before, joint, last⟩ := isPlaced.spellings_stopped
    have heavier := isPlaced.weight_eq
    rw [List.append_nil] at same'
    cases commented with
    | plain =>
      cases commented'
      rw [weight, weight, same, same', Bool.toNat_true] at heavier
      omega
    | doc comment =>
      cases commented' with
      | doc comment' =>
        have last' := congrArg List.getLast? same'
        rw [last, List.getLast?_concat] at last'
        obtain ⟨inner, text, rest⟩ := comment'
        cases inner <;> simp [Lexer.DocComment.tokens] at last'
  · intro closed
    obtain ⟨tokens, rejoined, read'⟩ := Lexer.tokensOf_append read stop closed (by simp)
    obtain ⟨placed, same, isPlaced⟩ := exists_placed false rejoined
    have semicolon : Lexer.tokensOf [';'] = some [.punct ';' false] := by decide +kernel
    refine ⟨placed, isPlaced, ?_⟩
    rw [read', semicolon, List.append_nil, same]
    rfl

/-- A parenthesis closes behind a fragment unless that ends in a line comment. -/
theorem exists_placed_iff_close {more : List Char} {tail : List Token}
    (found : treesOf? fragment = some alone) (lexed : Lexer.tokensOf (')' :: more) = some tail)
    (unfed : '\n' ∉ ')' :: more) (closes : nesting tail ≠ 0) :
    (∃ placed, Placed false alone placed ∧
      Lexer.tokensOf (fragment ++ ')' :: more) = some (Tree.spellings placed ++ tail)) ↔
        Lexer.endsInLine fragment = false := by
  have read := treesOf?_eq_some_iff.mp found
  have stop : Lexer.Stops (')' :: more) := Lexer.stops_cons (by decide) more
  constructor
  · rintro ⟨placed, isPlaced, whole⟩
    refine Lexer.not_endsInLine_of_nesting stop unfed read whole ?_
    rw [nesting_append, nesting_spellings, nesting_spellings, Int.zero_add]
    exact closes
  · intro closed
    have unopened : (')' :: more).head? = some ')' →
        (Tree.spellings alone).getLast? ≠ some (.opening .parenthesis) :=
      fun _ last => (Tree.last_of_spellings last).1 _ rfl
    obtain ⟨tokens, rejoined, read'⟩ := Lexer.tokensOf_append read stop closed unopened
    obtain rfl := rejoined.eq rfl
    refine ⟨alone, .alone alone, ?_⟩
    rw [read', lexed]
    rfl

end

/-! ### Fragments that are spliced -/

/-- A fragment that is an expression, and with which what comes behind it is no comment. -/
def IsSpliceable (fragment : String) : Prop :=
  (∃ trees, treesOf? fragment.toList = some trees ∧ IsWholeExpr trees) ∧
    Lexer.endsInLine fragment.toList = false

/-- A fragment is one expression in its place if it is one alone and leaves what comes behind it
where it is. -/
theorem holdsExpr_iff {α : Type} {production : Grammar → Reader α}
    {before fragment after : String} {stopped : Bool} {around : List Tree → List Tree}
    (head tail : List Token)
    (fronts : ∀ alone, treesOf? fragment.toList = some alone → alone ≠ [] →
      Lexer.tokens (before.toList ++ (fragment.toList ++ after.toList)) =
        (Lexer.tokensOf (fragment.toList ++ after.toList)).map (head ++ ·))
    (spelled : ∀ ts, Tree.spellings (around ts) = head ++ (Tree.spellings ts ++ tail))
    (settles : ∀ alone, treesOf? fragment.toList = some alone →
      ((∃ placed, Placed stopped alone placed ∧ Lexer.tokensOf (fragment.toList ++ after.toList) =
        some (Tree.spellings placed ++ tail)) ↔ Lexer.endsInLine fragment.toList = false))
    (reads : ∀ alone placed, Placed stopped alone placed → IsWholeExpr alone → ∀ depth,
      2 * (weight alone + 1) ≤ depth → head.length ≤ depth →
        ∃ a, (production (.level (depth + 2))).run (around placed) = some (a, [])) :
    HoldsExpr production (before ++ fragment ++ after) stopped around fragment ↔
      IsSpliceable fragment := by
  have whole (ts : List Tree) : weight (around ts) = head.length + (weight ts + tail.length) := by
    rw [weight, spelled, List.length_append, List.length_append, weight]
  have text : (before ++ fragment ++ after).toList =
      before.toList ++ (fragment.toList ++ after.toList) := by simp
  rw [HoldsExpr, text]
  constructor
  · -- What is read in its place is read alone, and the tokens behind it are those of the tail.
    rintro ⟨-, tokens, alone, placed, lexed, closed, found, isExpr⟩
    obtain rfl := Tree.spellings_of_ofTokens closed
    have heavier := isExpr.1.weight_eq
    have deep : 2 * (weight alone + 1) ≤ 3 * weight (around placed) + 8 := by
      have := whole placed
      omega
    have isExpr := (isExprAt_iff deep).mp isExpr
    rw [fronts alone found isExpr.2.ne_nil, spelled, Option.map_eq_some_iff] at lexed
    obtain ⟨tokens, lexed, same⟩ := lexed
    obtain rfl := List.append_cancel_left same
    exact ⟨⟨alone, found, isExpr.2⟩, (settles alone found).mp ⟨placed, isExpr.1, lexed⟩⟩
  · rintro ⟨⟨alone, found, isExpr⟩, closed⟩
    obtain ⟨placed, isPlaced, lexed⟩ := (settles alone found).mpr closed
    have heavier := isPlaced.weight_eq
    have heavy := whole placed
    have deep : 2 * (weight alone + 1) ≤ 3 * weight (around placed) + 8 := by omega
    have lexes := fronts alone found isExpr.ne_nil
    rw [lexed, Option.map_some, ← spelled] at lexes
    obtain ⟨a, read⟩ := reads alone placed isPlaced isExpr (3 * weight (around placed) + 6)
      (by omega) (by omega)
    refine ⟨parse?_isSome_iff.mpr ⟨around placed, a, ?_, read⟩, _, alone, placed, lexes,
      Tree.ofTokens_iff.mpr rfl, found, (isExprAt_iff deep).mpr ⟨isPlaced, isExpr⟩⟩
    rw [treesOf?_eq_some_iff, ← Lexer.tokens_eq_tokensOf, text, lexes]

/-! ### The texts around fragments -/

/-- The text in front of the value of a binding. -/
def bindingText (name type : String) : String := "let " ++ name ++ ": " ++ type ++ " = "

/-- A text that is a type, also in front of an equals sign. -/
structure IsTypeText (text : String) (type : List Tree) : Prop where
  spelled : Lexer.tokensOf text.toList = some (Tree.spellings type)
  closed : Lexer.endsInLine text.toList = false
  read : ∀ depth, weight type ≤ depth → ∀ ts, ∃ t, ((Grammar.level depth).type true).run
    (type ++ .punct '=' false :: ts) = some (t, .punct '=' false :: ts)

section

open Lexer

variable {name text : String} {type : List Tree}

theorem tokensOf_word {word rest : List Char} (named : IsName word) (ends : EndsName rest) :
    tokensOf (word ++ rest) = (tokensOf rest).map ([.ident (String.ofList word)] ++ ·) :=
  tokensOf_of_front (step_name named ends)

theorem tokensOf_space (rest : List Char) : tokensOf (' ' :: rest) = tokensOf rest :=
  tokensOf_blank (by decide) rest

theorem tokensOf_plainMark {c : Char} {rest : List Char} (listed : c ∈ plainMarks)
    (unmarked : mark? rest = none) :
    tokensOf (c :: rest) = (tokensOf rest).map ([.punct c false] ++ ·) := by
  rw [tokensOf_of_front (step_mark listed rest), unmarked]
  rfl

/-- A type in front of a blank. -/
theorem IsTypeText.tokensOf (typed : IsTypeText text type) (rest : List Char) :
    tokensOf (text.toList ++ ' ' :: rest) =
      (tokensOf rest).map (Tree.spellings type ++ ·) := by
  have blank : Stops (' ' :: rest) := stops_cons (by decide) rest
  obtain ⟨tokens, rejoined, read⟩ := tokensOf_append typed.spelled blank typed.closed (by simp)
  obtain rfl := rejoined.eq (mark?_of_isSpace (by decide) rest)
  rw [read, tokensOf_space]

theorem tokensOf_binding (named : IsName name.toList) (typed : IsTypeText text type)
    (after : List Char) : tokensOf ((bindingText name text).toList ++ after) =
      (tokensOf after).map (Tree.spellings (Grammar.bindingTrees name type) ++ ·) := by
  have isLet : IsName ['l', 'e', 't'] :=
    .plain ⟨by decide, Chars.forall_mem_of_all (by decide)⟩
  have unmarked (rest : List Char) : mark? (' ' :: rest) = none :=
    mark?_of_isSpace (by decide) rest
  have split : (bindingText name text).toList ++ after = ['l', 'e', 't'] ++ ' ' ::
      (name.toList ++ ':' :: ' ' :: (text.toList ++ ' ' :: '=' :: ' ' :: after)) := by
    simp [bindingText]
  rw [split, tokensOf_word isLet (endsName_mark (by decide) _), tokensOf_space,
    tokensOf_word named (endsName_mark (by decide) _),
    tokensOf_plainMark (by decide) (unmarked _), tokensOf_space, typed.tokensOf,
    tokensOf_plainMark (by decide) (unmarked _), tokensOf_space]
  simp [Option.map_map, Function.comp_def, Grammar.bindingTrees, Tree.spellings,
    Tree.spelling, Tree.spellings_append]

/-- The tokens in front of the body of a closure that is handed to a method. -/
def closureHead (name : String) : List Token :=
  [.ident name, .punct '.' false, .ident "unwrap_or_else", .opening .parenthesis, .punct '|' true,
    .punct '|' false]

theorem tokensOf_closure (named : IsName name.toList) (after : List Char) :
    tokensOf ((name ++ ".unwrap_or_else(|| ").toList ++ after) =
      (tokensOf after).map (closureHead name ++ ·) := by
  have isMethod : IsName "unwrap_or_else".toList :=
    .plain ⟨by decide, Chars.forall_mem_of_all (by decide)⟩
  have split : (name ++ ".unwrap_or_else(|| ").toList ++ after = name.toList ++ '.' ::
      ("unwrap_or_else".toList ++ '(' :: '|' :: '|' :: ' ' :: after) := by simp
  have letter (rest : List Char) : mark? ("unwrap_or_else".toList ++ rest) = none :=
    mark?_of_isIdentifierStart (c := 'u') (by decide) _
  have opening (rest : List Char) : step ('(' :: '|' :: rest) =
      some ([.opening .parenthesis], '|' :: rest) := step_bracket rfl (by simp)
  have joined (rest : List Char) : (mark? ('|' :: ' ' :: rest)).isSome = true := rfl
  rw [split, tokensOf_word named (endsName_mark (by decide) _),
    tokensOf_plainMark (by decide) (letter _),
    tokensOf_word isMethod (endsName_mark (by decide) _), tokensOf_of_front (opening _),
    tokensOf_of_front (step_mark (c := '|') (by decide) _), joined,
    tokensOf_plainMark (by decide) (mark?_of_isSpace (by decide) after), tokensOf_space]
  simp [Option.map_map, Function.comp_def, closureHead]

/-- No fragment with a token in it makes a parenthesis the opening of a literal that failed. -/
theorem failed?_of_treesOf? {cs : List Char} {alone : List Tree}
    (found : treesOf? cs = some alone) (written : alone ≠ []) :
    failed? ('(' :: (cs ++ [')'])) = none := by
  have comment : tokensOf "/*ERROR*/".toList = some [] := by decide +kernel
  have unopened : '(' :: cs ≠ failedOpening := by
    intro same
    obtain rfl : cs = "/*ERROR*/".toList := List.tail_eq_of_cons_eq same
    rw [treesOf?, comment] at found
    exact written (Option.some.inj found).symm
  change failed? ('(' :: cs ++ [')']) = none
  refine failed?_append (stops_cons (by decide) []) (fun _ => unopened) ?_
  rw [failed?, Option.map_eq_none_iff, isPrefixOf?_eq_none_iff, ← Bool.not_eq_true,
    List.isPrefixOf_iff_prefix]
  rintro ⟨more, same⟩
  obtain rfl : cs = "/*ERROR*/".toList ++ ')' :: more := (List.tail_eq_of_cons_eq same).symm
  obtain ⟨tokens, rejoined, read⟩ := tokensOf_append comment
    (stops_cons (c := ')') (by decide) more) (by decide +kernel) (by simp)
  obtain rfl := rejoined.eq rfl
  -- Behind its comment the fragment would close a bracket that it does not open.
  have closing : tokensOf (')' :: more) = (tokensOf more).map ([.closing .parenthesis] ++ ·) :=
    tokensOf_of_front (step_bracket rfl (by simp))
  rw [treesOf?, read, closing, Option.map_map] at found
  obtain ⟨tokens, lexed, closed⟩ := Option.bind_eq_some_iff.mp found
  obtain ⟨tokens, -, rfl⟩ := Option.map_eq_some_iff.mp lexed
  cases closed

theorem tokensOf_slot (named : IsName name.toList) {after : List Char}
    (opens : failed? ('(' :: after) = none) :
    tokensOf ((name ++ ": Some(").toList ++ after) = (tokensOf after).map
      ([.ident name, .punct ':' false, .ident "Some", .opening .parenthesis] ++ ·) := by
  have isSome : IsName "Some".toList :=
    .plain ⟨by decide, Chars.forall_mem_of_all (by decide)⟩
  have split : (name ++ ": Some(").toList ++ after = name.toList ++ ':' :: ' ' ::
      ("Some".toList ++ '(' :: after) := by simp
  rw [split, tokensOf_word named (endsName_mark (by decide) _),
    tokensOf_plainMark (by decide) (mark?_of_isSpace (by decide) _), tokensOf_space,
    tokensOf_word isSome (endsName_mark (by decide) _),
    tokensOf_of_front (step_bracket_of_failed? rfl opens)]
  simp [Option.map_map, Function.comp_def]

end

/-! ### Bindings and fields that hold a fragment -/

section

open Lexer Grammar

variable {name text : String} {type : List Tree} (fragment : String)

theorem tokens_of_visible {cs : List Char} (visible : Visible cs) :
    Lexer.tokens cs = tokensOf cs := by
  rw [tokens_eq_tokensOf, withoutMark_of_visible visible]

theorem visible_binding (cs : List Char) : Visible ((bindingText name text).toList ++ cs) :=
  Visible.append ⟨'l', "et ".toList ++ (name ++ ": " ++ text ++ " = ").toList,
    by simp [bindingText], by decide, by decide⟩ cs

theorem weight_le_binding (name : String) (type : List Tree) :
    weight type ≤ (Tree.spellings (bindingTrees name type)).length := by
  rw [← weight, bindingTrees, weight_cons, weight_cons, weight_cons, weight_append]
  omega

/-- What a closure is the argument of. -/
def closureTrees (name : String) (body : List Tree) : List Tree :=
  [.ident name, .punct '.' false, .ident "unwrap_or_else",
    .group .parenthesis (.punct '|' true :: .punct '|' false :: body)]

/-- A binding to a fragment holds it if it can be spliced. -/
theorem holdsExpr_binding (named : IsName name.toList) (free : name ∉ Tree.reserved)
    (typed : IsTypeText text type) :
    HoldsExpr Grammar.statement (bindingText name text ++ fragment ++ ";") true
      (bindingTrees name type ++ ·) fragment ↔ IsSpliceable fragment := by
  refine holdsExpr_iff (Tree.spellings (bindingTrees name type)) []
    (fun _ _ _ => ?_) (fun ts => ?_) (fun _ found => exists_placed_iff_stop found) ?_
  · rw [tokens_of_visible (visible_binding _), tokensOf_binding named typed]
  · rw [Tree.spellings_append, List.append_nil]
  · intro alone placed isPlaced whole depth deep deep'
    have lighter := weight_le_binding name type
    obtain ⟨-, e, left, read, ends⟩ :=
      (isExprAt_iff (deep.trans (Nat.le_add_right depth 2))).mpr ⟨isPlaced, whole⟩
    obtain ⟨t, typed⟩ := typed.read (depth + 2) (by omega) placed
    cases ends with
    | stop joint =>
      exact ⟨false, run_statement_let (run_readPattern_name free) typed read⟩

/-- A binding to the outcome of a closure holds the fragment that the closure is. -/
theorem holdsExpr_closure (named : IsName name.toList) (free : name ∉ Tree.reserved)
    (typed : IsTypeText text type) :
    HoldsExpr Grammar.statement
      (bindingText name text ++ (name ++ ".unwrap_or_else(|| ") ++ fragment ++ ");") false
      (fun body => bindingTrees name type ++ (closureTrees name body ++ [.punct ';' false]))
      fragment ↔ IsSpliceable fragment := by
  have closing : tokensOf [')', ';'] = some [.closing .parenthesis, .punct ';' false] := by
    decide +kernel
  refine holdsExpr_iff (Tree.spellings (bindingTrees name type) ++ closureHead name)
    [.closing .parenthesis, .punct ';' false] (fun _ _ _ => ?_) (fun ts => ?_)
    (fun _ found => exists_placed_iff_close found closing (by decide) (by decide)) ?_
  · rw [String.toList_append, List.append_assoc, tokens_of_visible (visible_binding _),
      tokensOf_binding named typed, tokensOf_closure named, Option.map_map]
    simp [Function.comp_def]
  · simp [Tree.spellings_append, closureTrees, closureHead, Tree.spellings, Tree.spelling]
  · intro alone placed isPlaced whole depth deep deep'
    have lighter := weight_le_binding name type
    rw [List.length_append] at deep'
    obtain ⟨-, e, left, read, ends⟩ := (isExprAt_iff deep).mpr ⟨isPlaced, whole⟩
    obtain ⟨t, typed⟩ := typed.read (depth + 2) (by omega)
      (closureTrees name placed ++ [.punct ';' false])
    -- The call takes one level and the closure in it another.
    cases ends with
    | alone =>
      have body : ((level (depth + 1)).expr true).run
          (.punct '|' true :: .punct '|' false :: placed) = some (e.endingAs, []) :=
        run_readExpr_closure (not_atOperator_arrow read) read
      have method : "unwrap_or_else" ∉ Tree.reserved := by decide
      have call := run_method (g := .level (depth + 1)) free method (List.cons_ne_nil _ _) body
        (.stop false) true
      exact ⟨false, run_statement_let (run_readPattern_name free) typed call⟩

/-- A field with a fragment in it holds that. -/
theorem holdsExpr_slot (named : IsName name.toList) (free : name ∉ Tree.reserved) :
    HoldsExpr Grammar.fieldValue (name ++ ": Some(" ++ fragment ++ ")") false
      (fun body => [.ident name, .punct ':' false, .ident "Some", .group .parenthesis body])
      fragment ↔ IsSpliceable fragment := by
  have closing : tokensOf [')'] = some [.closing .parenthesis] := by decide +kernel
  refine holdsExpr_iff
    [.ident name, .punct ':' false, .ident "Some", .opening .parenthesis]
    [.closing .parenthesis] (fun alone found written => ?_) (fun ts => ?_)
    (fun _ found => exists_placed_iff_close found closing (by decide) (by decide)) ?_
  · have visible : Visible (name ++ ": Some(").toList := by
      rw [String.toList_append]
      exact (Visible.name named).append _
    exact (tokens_of_visible (visible.append _)).trans
      (tokensOf_slot named (failed?_of_treesOf? found written))
  · simp [Tree.spellings, Tree.spelling]
  · intro alone placed isPlaced whole depth deep _
    obtain ⟨-, e, left, read, ends⟩ :=
      (isExprAt_iff (deep.trans (Nat.le_succ depth))).mpr ⟨isPlaced, whole⟩
    cases ends with
    | alone =>
      obtain rfl := isPlaced.eq
      have some : "Some" ∉ Tree.reserved := by decide
      have call := run_call (g := .level (depth + 1)) some whole.ne_nil read true
      exact ⟨(), run_fieldValue free call⟩

end

/-! ### Fragments without the blanks around them -/

/-- The text can stand in a line of other text: it does not begin with a byte order mark, and does
not end in a line comment. -/
def IsInline (text : String) : Prop :=
  (∀ c ∈ text.toList.head?, c.toNat ≠ 0xFEFF) ∧ Lexer.endsInLine text.toList = false

theorem withoutMark_of_unmarked {cs : List Char} (unmarked : ∀ c ∈ cs.head?, c.toNat ≠ 0xFEFF) :
    withoutMark cs = cs := by
  cases cs with
  | nil => rfl
  | cons c cs => rw [withoutMark, if_neg (unmarked c rfl)]

theorem unmarked_of_treesOf? {cs : List Char} {trees : List Tree}
    (found : treesOf? cs = some trees) : ∀ c ∈ cs.head?, c.toNat ≠ 0xFEFF := by
  intro c first mark
  obtain ⟨more, rfl⟩ := List.head?_eq_some_iff.mp first
  rw [treesOf?_eq_some_iff, Lexer.tokensOf_mark mark] at found
  cases found

/-- A text is what is left of it with blanks around. -/
theorem exists_blanks (text : String) : ∃ before after : List Char,
    text.toList = before ++ ((Text.trim text).toList ++ after) ∧
      ∀ c ∈ before ++ after, Lexer.isSpace c = true := by
  have blank (cs : List Char) : ∀ c ∈ cs.takeWhile Chars.isBlank, Lexer.isSpace c = true := by
    intro c member
    simp [Lexer.isSpace, List.mem_takeWhile_imp member]
  let rest := text.toList.dropWhile Chars.isBlank
  have trimmed : (Text.trim text).toList = (rest.reverse.dropWhile Chars.isBlank).reverse := by
    rw [Text.trim, Text.onChars, String.toList_ofList]
    rfl
  refine ⟨text.toList.takeWhile Chars.isBlank, (rest.reverse.takeWhile Chars.isBlank).reverse,
    ?_, fun c member => ?_⟩
  · rw [trimmed, ← List.reverse_append, List.takeWhile_append_dropWhile, List.reverse_reverse,
      List.takeWhile_append_dropWhile]
  · rcases List.mem_append.mp member with member | member
    · exact blank _ c member
    · exact blank _ c (List.mem_reverse.mp member)

/-- A text is an expression that can be spliced without its blanks if it is one that can stand in
a line. -/
theorem isSpliceable_trim_iff {text : String} :
    IsSpliceable (Text.trim text) ↔ isExpr text = true ∧ IsInline (Text.trim text) := by
  obtain ⟨before, after, split, blank⟩ := exists_blanks text
  rw [List.forall_mem_append] at blank
  have visible {c : Char} (mark : c.toNat = 0xFEFF) : Lexer.isSpace c = false := by
    obtain rfl : c = Char.ofNat 0xFEFF := by rw [← mark, Char.ofNat_toNat]
    decide
  have unmarked (kept : ∀ c ∈ (Text.trim text).toList.head?, c.toNat ≠ 0xFEFF) :
      ∀ c ∈ text.toList.head?, c.toNat ≠ 0xFEFF := by
    intro c first mark
    have unblank (cs : List Char) (blank : ∀ c ∈ cs, Lexer.isSpace c = true) :
        cs.head? ≠ some c := by
      intro first
      exact Lexer.not_mem_of_blank blank (visible mark) (List.mem_of_mem_head? first)
    rw [split, List.head?_append, List.head?_append, Option.mem_def] at first
    rcases Option.or_eq_some_iff.mp first with first | ⟨-, first⟩
    · exact unblank before blank.1 first
    · rcases Option.or_eq_some_iff.mp first with first | ⟨-, first⟩
      · exact kept c first mark
      · exact unblank after blank.2 first
  have same (closed : Lexer.endsInLine (Text.trim text).toList = false) :
      treesOf? text.toList = treesOf? (Text.trim text).toList := by
    rw [treesOf?, split, Lexer.tokensOf_blanks blank.1,
      Lexer.tokensOf_append_blanks blank.2 closed, treesOf?]
  constructor
  · rintro ⟨⟨trees, found, whole⟩, closed⟩
    have kept := unmarked_of_treesOf? found
    refine ⟨isExpr_iff.mpr ⟨trees, ?_, whole⟩, kept, closed⟩
    rw [withoutMark_of_unmarked (unmarked kept), same closed, found]
  · rintro ⟨accepted, kept, closed⟩
    obtain ⟨trees, found, whole⟩ := isExpr_iff.mp accepted
    rw [withoutMark_of_unmarked (unmarked kept), same closed] at found
    exact ⟨⟨trees, found, whole⟩, closed⟩

/-! ### Texts between braces -/

section

open Lexer

variable {text : String} {b : Char}

theorem tokens_braced (blank : isSpace b = true) (cs : List Char) :
    Lexer.tokens ('\x7b' :: b :: cs) = (tokensOf cs).map ([.opening .brace] ++ ·) := by
  have opening : step ('\x7b' :: b :: cs) = some ([.opening .brace], b :: cs) :=
    step_bracket rfl (by simp)
  rw [tokens_of_visible ⟨_, _, rfl, by decide, by decide⟩, tokensOf_of_front opening]
  exact congrArg _ (tokensOf_blank blank cs)

theorem tokensOf_closing (blank : isSpace b = true) :
    tokensOf [b, '\x7d'] = some [.closing .brace] :=
  (tokensOf_blank blank ['\x7d']).trans (by decide +kernel)

theorem closesNothing_brace (blank : isSpace b = true) : ClosesNothing [b, '\x7d'] := by
  have ne {c : Char} (visible : isSpace c = false) : c ≠ b := by
    rintro rfl
    rw [blank] at visible
    cases visible
  exact ⟨stops_cons (Bool.or_eq_true_iff.mpr (.inl blank)) _, by simp [ne (c := '"') (by decide)],
    by simp [ne (c := '#') (by decide)], by simp [ne (c := '\'') (by decide)],
    by simp [ne (c := '/') (by decide)],
    fun first => ne (c := ')') (by decide) (Option.some.inj first).symm⟩

/-- Braces on lines of their own are those on the line of the text if it ends in no comment. -/
theorem isBlock_lines (closed : endsInLine text.toList = false) :
    isBlock ("\x7b " ++ text ++ " \x7d") = isBlock ("\x7b\n" ++ text ++ "\n\x7d") := by
  have braced (b : Char) (blank : isSpace b = true) :
      Lexer.tokens ('\x7b' :: b :: (text.toList ++ [b, '\x7d'])) =
        ((tokensOf text.toList).map (· ++ [.closing .brace])).map ([.opening .brace] ++ ·) := by
    rw [tokens_braced blank, tokensOf_append_closing (closesNothing_brace blank)
      (mark?_of_isSpace blank _) closed, tokensOf_closing blank]
    cases tokensOf text.toList <;> rfl
  have same : Lexer.tokens ("\x7b " ++ text ++ " \x7d").toList =
      Lexer.tokens ("\x7b\n" ++ text ++ "\n\x7d").toList := by
    simpa using (braced ' ' (by decide)).trans (braced '\n' (by decide)).symm
  rw [isBlock, isBlock, parse?, parse?, same]

/-- A text that ends in a line comment stands between braces on its line or on lines of their own,
if at all. -/
theorem not_isBlock_lines (line : endsInLine text.toList = true)
    (short : isBlock ("\x7b " ++ text ++ " \x7d") = true) :
    isBlock ("\x7b\n" ++ text ++ "\n\x7d") = false := by
  have balanced (b : Char) (blank : isSpace b = true) (block : String)
      (split : block.toList = '\x7b' :: b :: (text.toList ++ [b, '\x7d']))
      (accepted : isBlock block = true) :
      ∃ tokens, tokensOf (text.toList ++ [b, '\x7d']) = some tokens ∧ nesting tokens = -1 := by
    obtain ⟨trees, _, found, -⟩ := parse?_isSome_iff.mp accepted
    rw [treesOf?_eq_some_iff, ← tokens_eq_tokensOf, split, tokens_braced blank,
      Option.map_eq_some_iff] at found
    obtain ⟨tokens, read, same⟩ := found
    have level := congrArg nesting same
    rw [nesting_spellings, nesting_append] at level
    exact ⟨tokens, read, by simp [nesting] at level; omega⟩
  refine Bool.eq_false_iff.mpr fun long => ?_
  obtain ⟨tokens, read, level⟩ := balanced ' ' (by decide) _ (by simp) short
  obtain ⟨tokens', read', level'⟩ := balanced '\n' (by decide) _ (by simp) long
  obtain ⟨front, documents, behind⟩ := tokensOf_append_line line
  obtain ⟨doc, more, commented, rfl, none⟩ :=
    behind _ _ (closesNothing_brace (by decide)).stops read
  obtain ⟨doc', more', commented', rfl, closing⟩ :=
    behind _ _ (closesNothing_brace (by decide)).stops read'
  have swallowed : more = [] := (Option.some.inj none).symm
  have closes : more' = [.closing .brace] :=
    (Option.some.inj ((tokensOf_closing (b := '\n') (by decide)).symm.trans closing)).symm
  rw [swallowed, nesting_append, nesting_append, nesting_of_documents commented] at level
  rw [closes, nesting_append, nesting_append, nesting_of_documents commented'] at level'
  simp [nesting] at level level'
  omega

end

end Companion.Code

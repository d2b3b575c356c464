import Companion.Proofs.Code.Lexing

/-! From a text to the trees of its tokens, piece by piece. -/

set_option autoImplicit false

namespace Companion.Code

/-! ### The names of a text are names -/

def Token.IsNamed : Token → Prop
  | .ident name => Lexer.IsName name.toList
  | _ => True

/-- All that trees hold as identifiers are names, at any depth. -/
inductive Tree.IsNamed : Tree → Prop
  | ident {name : String} (named : Lexer.IsName name.toList) : IsNamed (.ident name)
  | punct (mark : Char) (joint : Bool) : IsNamed (.punct mark joint)
  | literal (text : String) : IsNamed (.literal text)
  | group (delimiter : Delimiter) {body : List Tree} (inside : ∀ tree ∈ body, tree.IsNamed) :
      IsNamed (.group delimiter body)

def AreNamed (trees : List Tree) : Prop := ∀ tree ∈ trees, tree.IsNamed

namespace Lexer

theorem DocComment.areNamed (comment : DocComment) :
    ∀ token ∈ comment.tokens, token.IsNamed := by
  have doc : IsName ['d', 'o', 'c'] :=
    .plain ⟨by decide, Chars.forall_mem_of_all (by decide)⟩
  cases inner : comment.inner <;> simp [DocComment.tokens, inner, Token.IsNamed, doc]

theorem punct?_isNamed {cs rest : List Char} {token : Token}
    (found : punct? cs = some (token, rest)) : token.IsNamed := by
  unfold punct? at found
  split at found
  · cases found
  · split at found
    · cases found
    · simp only at found
      split at found
      · cases found
      · split at found <;> cases found
        trivial
      · cases found
        trivial
  · cases found
    trivial

theorem leaf?_isNamed {cs rest : List Char} {token : Token}
    (found : leaf? cs = some (token, rest)) : token.IsNamed := by
  unfold leaf? at found
  split at found
  · cases found
    trivial
  · split at found
    next punct =>
      cases found
      exact punct?_isNamed punct
    next =>
      obtain ⟨⟨name, rest⟩, scanned, same⟩ := Option.map_eq_some_iff.mp found
      cases same
      unfold ident? at scanned
      split at scanned
      · cases scanned
      · rw [Token.IsNamed, String.toList_ofList]
        exact isName_of_anyIdent? scanned

theorem step_areNamed {cs rest : List Char} {tokens : List Token}
    (stepped : step cs = some (tokens, rest)) : ∀ token ∈ tokens, token.IsNamed := by
  have alone {token : Token} (named : token.IsNamed) : ∀ other ∈ [token], other.IsNamed := by
    simpa using named
  unfold step at stepped
  split at stepped
  · cases stepped
  · split at stepped
    · cases stepped
      simp
    · split at stepped
      · cases stepped
        simp
      · split at stepped
        next comment _ =>
          cases stepped
          exact comment.areNamed
        next =>
          split at stepped
          next found =>
            cases stepped
            obtain ⟨_, -, same⟩ := Option.map_eq_some_iff.mp found
            cases same
            exact alone trivial
          next =>
            split at stepped
            next bracket =>
              cases stepped
              unfold bracket? at bracket
              split at bracket <;> cases bracket <;> exact alone trivial
            next =>
              obtain ⟨⟨token, rest⟩, found, same⟩ := Option.map_eq_some_iff.mp stepped
              cases same
              exact alone (leaf?_isNamed found)

theorem tokensWithin_areNamed {fuel : Nat} {cs : List Char} {tokens : List Token}
    (lexed : tokensWithin fuel cs = some tokens) : ∀ token ∈ tokens, token.IsNamed := by
  induction fuel generalizing cs tokens with
  | zero =>
    cases cs with
    | nil =>
      cases lexed
      simp
    | cons c rest => cases lexed
  | succ fuel ih =>
    cases cs with
    | nil =>
      cases lexed
      simp
    | cons c rest =>
      rw [tokensWithin.eq_3 _ _ (by simp)] at lexed
      split at lexed
      · cases lexed
      next stepped =>
        obtain ⟨more, others, rfl⟩ := Option.map_eq_some_iff.mp lexed
        exact List.forall_mem_append.mpr ⟨step_areNamed stepped, ih others⟩

theorem tokens_areNamed {cs : List Char} {tokens : List Token}
    (lexed : Lexer.tokens cs = some tokens) : ∀ token ∈ tokens, token.IsNamed := by
  unfold Lexer.tokens at lexed
  split at lexed
  · split at lexed <;> exact tokensWithin_areNamed lexed
  · cases lexed
    simp

end Lexer

namespace Tree

theorem closeGroups_areNamed {tokens : List Token} {stack : List (Delimiter × List Tree)}
    {seen trees : List Tree} (named : ∀ token ∈ tokens, token.IsNamed)
    (outside : ∀ opened ∈ stack, AreNamed opened.2) (before : AreNamed seen)
    (closed : closeGroups stack seen tokens = some trees) : AreNamed trees := by
  induction tokens generalizing stack seen with
  | nil =>
    rw [closeGroups] at closed
    split at closed
    · cases closed
      exact fun tree member => before tree (List.mem_reverse.mp member)
    · cases closed
  | cons token tokens ih =>
    have ⟨first, others⟩ := List.forall_mem_cons.mp named
    cases token with
    | ident name => exact ih others outside (List.forall_mem_cons.mpr ⟨.ident first, before⟩) closed
    | punct mark joint =>
      exact ih others outside (List.forall_mem_cons.mpr ⟨.punct mark joint, before⟩) closed
    | literal text =>
      exact ih others outside (List.forall_mem_cons.mpr ⟨.literal text, before⟩) closed
    | opening d =>
      exact ih others (List.forall_mem_cons.mpr ⟨before, outside⟩) (List.forall_mem_nil _) closed
    | closing d =>
      cases stack with
      | nil => cases closed
      | cons opened stack =>
        have ⟨outer, outside⟩ := List.forall_mem_cons.mp outside
        rw [closeGroups] at closed
        split at closed
        · have inside : Tree.IsNamed (.group d seen.reverse) :=
            .group d fun tree member => before tree (List.mem_reverse.mp member)
          exact ih others outside (List.forall_mem_cons.mpr ⟨inside, outer⟩) closed
        · cases closed

theorem ofTokens_areNamed {tokens : List Token} {trees : List Tree}
    (named : ∀ token ∈ tokens, token.IsNamed) (closed : ofTokens tokens = some trees) :
    AreNamed trees :=
  closeGroups_areNamed named (by simp) (by simp [AreNamed]) closed

end Tree

/-! ### Pieces of a text -/

/-- The characters become the tokens in front of what comes after them, in no more steps than
there are characters. -/
def Lexes (cs after : List Char) (tokens : List Token) : Prop :=
  ∃ steps ≤ cs.length, ∀ fuel,
    Lexer.tokensWithin (steps + fuel) (cs ++ after) =
      (Lexer.tokensWithin fuel after).map (tokens ++ ·)

/-- What starts neither a comment nor with a byte order mark. -/
def Visible (cs : List Char) : Prop := ∃ c more, cs = c :: more ∧ c ≠ '/' ∧ c.toNat ≠ 0xFEFF

/-- The tokens become the trees, whatever surrounds them. -/
def Closes (tokens : List Token) (trees : List Tree) : Prop :=
  ∀ stack seen rest, Tree.closeGroups stack seen (tokens ++ rest) =
    Tree.closeGroups stack (trees.reverse ++ seen) rest

/-- In front of what comes after them, the characters are as many tokens as `size` says, which
make up the trees. -/
def Spells (cs after : List Char) (size : Nat) (trees : List Tree) : Prop :=
  ∃ tokens, tokens.length = size ∧ Lexes cs after tokens ∧ Closes tokens trees

namespace Visible

variable {cs : List Char}

theorem append (visible : Visible cs) (ds : List Char) : Visible (cs ++ ds) := by
  obtain ⟨c, more, rfl, clear⟩ := visible
  exact ⟨c, more ++ ds, rfl, clear⟩

theorem ne_slash (visible : Visible cs) : cs.head? ≠ some '/' := by
  obtain ⟨c, more, rfl, slash, -⟩ := visible
  simpa using slash

theorem name (named : Lexer.IsName cs) : Visible cs := by
  obtain ⟨c, more, rfl, start⟩ := named.exists_start
  refine ⟨c, more, rfl, Lexer.ne_of_isIdentifierStart start (by decide), fun mark => ?_⟩
  have unmarked := Unicode.isIdentifierStart_of_unlettered (c := c) (by rw [mark]; decide)
  rw [start] at unmarked
  cases unmarked

end Visible

namespace Lexes

variable {cs ds after : List Char} {tokens more : List Token}

theorem of_step (visible : cs ≠ [])
    (stepped : Lexer.step (cs ++ after) = some (tokens, after)) : Lexes cs after tokens := by
  obtain ⟨c, tail, rfl⟩ := List.exists_cons_of_ne_nil visible
  refine ⟨1, by simp, fun fuel => ?_⟩
  rw [Nat.add_comm, List.cons_append, Lexer.tokensWithin, ← List.cons_append, stepped]
  simp

theorem append (first : Lexes cs (ds ++ after) tokens) (second : Lexes ds after more) :
    Lexes (cs ++ ds) after (tokens ++ more) := by
  obtain ⟨steps, bounded, lexed⟩ := first
  obtain ⟨steps', bounded', lexed'⟩ := second
  refine ⟨steps + steps', by simp; omega, fun fuel => ?_⟩
  rw [List.append_assoc, Nat.add_assoc, lexed, lexed']
  simp [Function.comp_def]

theorem whole (lexed : Lexes cs [] tokens) (visible : Visible cs) :
    Lexer.tokens cs = some tokens := by
  obtain ⟨c, more, rfl, -, unmarked⟩ := visible
  obtain ⟨steps, bounded, lexed⟩ := lexed
  have all := lexed ((c :: more).length - steps)
  rw [Nat.add_sub_cancel' bounded, List.append_nil] at all
  rw [Lexer.tokens, if_neg unmarked, all]
  simp [Lexer.tokensWithin]

end Lexes

namespace Closes

variable {tokens more : List Token} {trees others : List Tree}

theorem append (first : Closes tokens trees) (second : Closes more others) :
    Closes (tokens ++ more) (trees ++ others) := by
  intro stack seen rest
  rw [List.append_assoc, first, second, List.reverse_append, List.append_assoc]

theorem group (delimiter : Delimiter) (body : Closes tokens trees) :
    Closes (.opening delimiter :: (tokens ++ [.closing delimiter])) [.group delimiter trees] := by
  intro stack seen rest
  rw [List.cons_append, Tree.closeGroups, List.append_assoc, body]
  simp [Tree.closeGroups]

end Closes

namespace Spells

variable {cs ds after : List Char} {size size' : Nat} {trees others : List Tree}

theorem append (first : Spells cs (ds ++ after) size trees)
    (second : Spells ds after size' others) :
    Spells (cs ++ ds) after (size + size') (trees ++ others) := by
  obtain ⟨tokens, count, lexed, closed⟩ := first
  obtain ⟨more, count', lexed', closed'⟩ := second
  exact ⟨tokens ++ more, by simp [count, count'], lexed.append lexed', closed.append closed'⟩

theorem name {name : List Char} (named : Lexer.IsName name) (ends : Lexer.EndsName after) :
    Spells name after 1 [.ident (String.ofList name)] := by
  have visible : name ≠ [] := by
    obtain ⟨c, more, rfl, -⟩ := named.exists_start
    simp
  exact ⟨_, rfl, .of_step visible (Lexer.step_name named ends), fun _ _ _ => rfl⟩

/-- A quote before a name, which the name does not belong to. -/
theorem quote {name : List Char} (named : Lexer.IsName name) (ends : Lexer.EndsName after) :
    Spells ['\''] (name ++ after) 1 [.punct '\'' true] :=
  ⟨[_], rfl, .of_step (by simp) (by simpa using Lexer.step_quote named ends), fun _ _ _ => rfl⟩

theorem mark {c : Char} (listed : c ∈ Lexer.plainMarks) (after : List Char) :
    Spells [c] after 1 [.punct c (Lexer.mark? after).isSome] :=
  ⟨_, rfl, .of_step (by simp) (Lexer.step_mark listed after), fun _ _ _ => rfl⟩

theorem digits (n : Nat) (ends : Lexer.EndsNumber after) :
    Spells (toString n).toList after 1 [.literal (toString n)] := by
  have decimal := Lexer.toDigits_subset n
  have text : (toString n).toList = Nat.toDigits 10 n := Nat.toList_repr
  refine ⟨[.literal (toString n)], rfl, .of_step (by simp) ?_, fun _ _ _ => rfl⟩
  rw [text, Lexer.step_digits decimal (by simp) ends, ← text, String.ofList_toList]

theorem blank (after : List Char) : Spells [' '] after 0 [] :=
  ⟨[], rfl, .of_step (by simp) (Lexer.step_blank after), fun _ _ _ => rfl⟩

theorem nil (after : List Char) : Spells [] after 0 [] :=
  ⟨[], rfl, ⟨0, le_rfl, fun fuel => by simp⟩, fun _ _ _ => rfl⟩

/-! Something in front of what is spelled already. -/

theorem cons_mark {c : Char} (listed : c ∈ Lexer.plainMarks) (spelled : Spells cs after size trees) :
    ∃ joint, Spells (c :: cs) after (size + 1) (.punct c joint :: trees) := by
  have whole := (Spells.mark listed (cs ++ after)).append spelled
  rw [Nat.add_comm] at whole
  exact ⟨_, whole⟩

theorem cons_colons {name : List Char} (named : Lexer.IsName name)
    (spelled : Spells (name ++ cs) after size trees) :
    Spells (':' :: ':' :: (name ++ cs)) after (size + 2)
      (.punct ':' true :: .punct ':' false :: trees) := by
  obtain ⟨c, more, rfl, start⟩ := named.exists_start
  have unjoined : Lexer.mark? (c :: more ++ cs ++ after) = none :=
    Lexer.mark?_of_isIdentifierStart start _
  have joined : (Lexer.mark? ([':'] ++ (c :: more ++ cs) ++ after)).isSome = true := by
    rw [List.append_assoc, List.singleton_append, Lexer.mark?, if_neg (by simp),
      if_pos (by decide +kernel)]
    rfl
  have last := Spells.mark (c := ':') (by decide) (c :: more ++ cs ++ after)
  have first := Spells.mark (c := ':') (by decide) ([':'] ++ (c :: more ++ cs) ++ after)
  rw [unjoined] at last
  rw [joined] at first
  have whole := first.append (last.append spelled)
  rwa [show 1 + (1 + size) = size + 2 by omega] at whole

theorem cons_quote {name : List Char} (named : Lexer.IsName name)
    (ends : Lexer.EndsName (cs ++ after)) (spelled : Spells (name ++ cs) after size trees) :
    Spells ('\'' :: (name ++ cs)) after (size + 1) (.punct '\'' true :: trees) := by
  have first := Spells.quote named ends
  rw [← List.append_assoc] at first
  have whole := first.append spelled
  rwa [Nat.add_comm] at whole

theorem cons_blank (spelled : Spells cs after size trees) :
    Spells (' ' :: cs) after size trees := by
  have whole := (Spells.blank (cs ++ after)).append spelled
  rwa [Nat.zero_add] at whole

theorem name_append {name : List Char} (named : Lexer.IsName name)
    (ends : Lexer.EndsName (cs ++ after)) (spelled : Spells cs after size trees) :
    Spells (name ++ cs) after (size + 1) (.ident (String.ofList name) :: trees) := by
  have whole := (Spells.name named ends).append spelled
  rwa [Nat.add_comm] at whole

theorem group {c d : Char} {delimiter : Delimiter}
    (first : Lexer.bracket? c = some (.opening delimiter))
    (last : Lexer.bracket? d = some (.closing delimiter))
    (clear : (cs ++ d :: after).head? ≠ some '/') (body : Spells cs (d :: after) size trees) :
    Spells (c :: (cs ++ [d])) after (size + 2) [.group delimiter trees] := by
  obtain ⟨tokens, count, lexed, closed⟩ := body
  have opening : Lexes [c] (cs ++ d :: after) [.opening delimiter] :=
    .of_step (by simp) (Lexer.step_bracket first fun _ => clear)
  have closing : Lexes [d] after [.closing delimiter] := by
    refine .of_step (by simp) (Lexer.step_bracket last ?_)
    rintro rfl
    cases last
  refine ⟨.opening delimiter :: (tokens ++ [.closing delimiter]), by simp [count], ?_,
    closed.group delimiter⟩
  have rest : Lexes (cs ++ [d]) after (tokens ++ [.closing delimiter]) := lexed.append closing
  have whole : Lexes [c] ((cs ++ [d]) ++ after) [.opening delimiter] := by simpa using opening
  exact whole.append rest

end Spells

end Companion.Code

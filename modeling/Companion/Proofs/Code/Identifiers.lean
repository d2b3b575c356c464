import Companion.Proofs.Code.Forms

/-! Texts that are one identifier.

Blanks and comments may stand around the identifier. A text without comments is that identifier in
other code too.
-/

set_option autoImplicit false

namespace Companion.Code

/-! ### Trees and their tokens -/

namespace Tree

mutual

/-- The tokens that make up a tree. -/
def spelling : Tree → List Token
  | ident name => [.ident name]
  | punct mark joint => [.punct mark joint]
  | literal text => [.literal text]
  | group delimiter body => .opening delimiter :: (spellings body ++ [.closing delimiter])

def spellings : List Tree → List Token
  | [] => []
  | tree :: others => spelling tree ++ spellings others

end

theorem spellings_append (trees others : List Tree) :
    spellings (trees ++ others) = spellings trees ++ spellings others := by
  induction trees with
  | nil => rfl
  | cons tree trees ih => rw [List.cons_append, spellings, ih, spellings, List.append_assoc]

/-- The tokens in front of the innermost open group. -/
def openings : List (Delimiter × List Tree) → List Token
  | [] => []
  | (delimiter, outer) :: stack =>
    openings stack ++ spellings outer.reverse ++ [.opening delimiter]

theorem spellings_of_closeGroups {stack : List (Delimiter × List Tree)} {seen trees : List Tree}
    {tokens : List Token} (closed : closeGroups stack seen tokens = some trees) :
    spellings trees = openings stack ++ spellings seen.reverse ++ tokens := by
  induction tokens generalizing stack seen with
  | nil =>
    rw [closeGroups] at closed
    split at closed
    next none =>
      cases closed
      rw [List.isEmpty_iff.mp none, openings, List.nil_append, List.append_nil]
    next => cases closed
  | cons token tokens ih =>
    cases token with
    | ident name => simpa [spellings_append, spellings, spelling] using ih closed
    | punct mark joint => simpa [spellings_append, spellings, spelling] using ih closed
    | literal text => simpa [spellings_append, spellings, spelling] using ih closed
    | opening delimiter => simpa [openings, spellings] using ih closed
    | closing delimiter =>
      cases stack with
      | nil => cases closed
      | cons group stack =>
        rw [closeGroups] at closed
        split at closed
        next same =>
          cases same
          simpa [openings, spellings_append, spellings, spelling] using ih closed
        next => cases closed

/-- No tokens are lost when they are made into trees. -/
theorem spellings_of_ofTokens {tokens : List Token} {trees : List Tree}
    (closed : ofTokens tokens = some trees) : spellings trees = tokens :=
  spellings_of_closeGroups closed

end Tree

/-! ### Identifiers -/

/-- The identifier that a text is. -/
def ident? (text : String) : Option String := parse? (fun _ => Reader.ident) text

/-- The same without its raw mark, which makes no other identifier of it. -/
def identifier? (text : String) : Option String :=
  (ident? text).map fun name => (Text.afterPrefix? "r#" name).getD name

/-- Neither a comment nor a byte order mark is in the text. -/
def IsBare (text : String) : Prop := ∀ c ∈ text.toList, c ≠ '/' ∧ c.toNat ≠ 0xFEFF

instance (text : String) : Decidable (IsBare text) :=
  inferInstanceAs (Decidable (∀ c ∈ text.toList, c ≠ '/' ∧ c.toNat ≠ 0xFEFF))

variable {text name : String}

theorem exists_ident? (checked : isIdent text = true) : ∃ name, ident? text = some name :=
  Option.isSome_iff_exists.mp checked

/-- An identifier is read from itself alone. -/
theorem Reader.ident_run {trees left : List Tree}
    (read : Reader.ident.run trees = some (name, left)) : trees = .ident name :: left := by
  unfold Reader.ident at read
  obtain ⟨before, state, got, read⟩ := Reader.run_bind.mp read
  cases got
  split at read
  next word rest =>
    split_ifs at read
    · cases read
    · cases read
      rfl
  next => cases read

theorem tokens_of_ident? (found : ident? text = some name) :
    Lexer.tokens text.toList = some [.ident name] := by
  obtain ⟨tokens, lexed, read⟩ := Option.bind_eq_some_iff.mp found
  obtain ⟨trees, closed, read⟩ := Option.bind_eq_some_iff.mp read
  have alone : trees = [.ident name] := by
    unfold Reader.all? at read
    split at read
    next word run =>
      cases read
      exact Reader.ident_run run
    next => cases read
  rw [lexed, ← Tree.spellings_of_ofTokens closed, alone]
  rfl

namespace Lexer

open Unicode (isIdentifierContinue)

/-- A word takes its letters from the front of the text, as many as there are. -/
theorem append_of_word? {cs word rest : List Char} (found : word? cs = some (word, rest)) :
    cs = word ++ rest ∧ ∀ c ∈ rest.head?, isIdentifierContinue c = false := by
  cases cs with
  | nil => cases found
  | cons c more =>
    rw [word?] at found
    split at found
    next =>
      cases found
      refine ⟨by simp, fun d first => ?_⟩
      have := List.head?_dropWhile_not isIdentifierContinue more
      rw [first] at this
      simpa using this
    next => cases found

theorem append_of_anyIdent? {cs name rest : List Char} (found : anyIdent? cs = some (name, rest)) :
    cs = name ++ rest ∧ ∀ c ∈ rest.head?, isIdentifierContinue c = false := by
  unfold anyIdent? at found
  split at found
  · split at found
    next word left scanned =>
      split at found
      · cases found
      · cases found
        obtain ⟨same, ends⟩ := append_of_word? scanned
        exact ⟨by rw [same]; rfl, ends⟩
    next => cases found
  · exact append_of_word? found

theorem punct?_ne_ident {cs rest : List Char} : punct? cs ≠ some (.ident name, rest) := by
  intro found
  unfold punct? at found
  split at found
  · cases found
  · split at found
    · cases found
    · simp only at found
      split at found
      · cases found
      · split at found <;> cases found
      · cases found
  · cases found

theorem anyIdent?_of_leaf? {cs rest : List Char} (found : leaf? cs = some (.ident name, rest)) :
    anyIdent? cs = some (name.toList, rest) := by
  unfold leaf? at found
  split at found
  · cases found
  · split at found
    next punct =>
      cases found
      exact absurd punct punct?_ne_ident
    next =>
      obtain ⟨⟨word, left⟩, scanned, same⟩ := Option.map_eq_some_iff.mp found
      cases same
      unfold ident? at scanned
      split at scanned
      · cases scanned
      · rwa [String.toList_ofList]

theorem bracket?_ne_ident {c : Char} : bracket? c ≠ some (.ident name) := by
  unfold bracket?
  split <;> nofun

/-- Without comments there are blanks and tokens, one at each step. -/
theorem step_of_bare {c : Char} {rest : List Char} (bare : '/' ∉ c :: rest) :
    step (c :: rest) = if isSpace c then some ([], rest) else
      match bracket? c with
      | some token => some ([token], rest)
      | none => (leaf? (c :: rest)).map fun (token, rest) => ([token], rest) := by
  split
  next space => simp [step, space]
  next visible =>
    refine step_visible (by simpa using visible) ?_ fun _ opened => ?_
    · rintro rfl
      exact bare List.mem_cons_self
    · exact bare (List.mem_cons_of_mem _ (List.mem_of_mem_head? opened))

theorem tokensWithin_cons {fuel : Nat} {c : Char} {rest : List Char} {tokens : List Token}
    (lexed : tokensWithin fuel (c :: rest) = some tokens) :
    ∃ less first left more, step (c :: rest) = some (first, left) ∧
      tokensWithin less left = some more ∧ tokens = first ++ more ∧ fuel = less + 1 := by
  cases fuel with
  | zero => cases lexed
  | succ fuel =>
    rw [tokensWithin.eq_3 _ _ (by simp)] at lexed
    split at lexed
    next => cases lexed
    next first left stepped =>
      obtain ⟨more, rest, rfl⟩ := Option.map_eq_some_iff.mp lexed
      exact ⟨fuel, first, left, more, stepped, rest, rfl, rfl⟩

/-- Where there is no token there are blanks. -/
theorem isSpace_of_tokensWithin {fuel : Nat} {cs : List Char} (bare : '/' ∉ cs)
    (lexed : tokensWithin fuel cs = some []) : ∀ c ∈ cs, isSpace c = true := by
  induction fuel generalizing cs with
  | zero =>
    cases cs with
    | nil => simp
    | cons c rest => cases lexed
  | succ fuel ih =>
    cases cs with
    | nil => simp
    | cons c rest =>
      obtain ⟨_, first, left, more, stepped, rest', none, same⟩ := tokensWithin_cons lexed
      cases same
      obtain ⟨rfl, rfl⟩ := List.append_eq_nil_iff.mp none.symm
      rw [step_of_bare bare] at stepped
      split at stepped
      next space =>
        cases stepped
        exact List.forall_mem_cons.mpr ⟨space, ih (List.not_mem_of_not_mem_cons bare) rest'⟩
      next =>
        -- A step that is no blank gives a token.
        split at stepped
        · cases stepped
        · obtain ⟨_, -, same⟩ := Option.map_eq_some_iff.mp stepped
          cases same

/-- A name with blanks around it, which end it. -/
structure Pads (name cs : List Char) : Prop where
  named : IsName name
  split : ∃ before after, cs = before ++ (name ++ after) ∧ (∀ c ∈ before, isSpace c = true) ∧
    (∀ c ∈ after, isSpace c = true) ∧ EndsName after

theorem endsName_of_isSpace {cs : List Char} (spaces : ∀ c ∈ cs, isSpace c = true)
    (ends : ∀ c ∈ cs.head?, isIdentifierContinue c = false) : EndsName cs := by
  cases cs with
  | nil => trivial
  | cons c rest =>
    have space := spaces c List.mem_cons_self
    refine ⟨ends c rfl, ?_, ?_, ?_⟩ <;> rintro rfl <;> cases space

/-- Where the only token is a name, all else is blank, up to it and behind it. -/
theorem pads_of_tokensWithin {fuel : Nat} {cs : List Char} (bare : '/' ∉ cs)
    (lexed : tokensWithin fuel cs = some [.ident name]) : Pads name.toList cs := by
  induction fuel generalizing cs with
  | zero => cases cs <;> cases lexed
  | succ fuel ih =>
    cases cs with
    | nil => cases lexed
    | cons c rest =>
      obtain ⟨_, first, left, more, stepped, rest', whole, same⟩ := tokensWithin_cons lexed
      cases same
      rw [step_of_bare bare] at stepped
      split at stepped
      next space =>
        cases stepped
        cases whole
        obtain ⟨named, before, after, rfl, spaces, others⟩ :=
          ih (List.not_mem_of_not_mem_cons bare) rest'
        exact ⟨named, c :: before, after, rfl, List.forall_mem_cons.mpr ⟨space, spaces⟩, others⟩
      next =>
        split at stepped
        next bracket =>
          cases stepped
          cases whole
          exact absurd bracket bracket?_ne_ident
        next =>
          obtain ⟨⟨token, left⟩, leaf, same⟩ := Option.map_eq_some_iff.mp stepped
          cases same
          cases whole
          -- The name stops at what it cannot go on with, so it ends there in any other text too.
          have scanned := anyIdent?_of_leaf? leaf
          obtain ⟨split, ends⟩ := append_of_anyIdent? scanned
          have spaces : ∀ c ∈ left, isSpace c = true := by
            refine isSpace_of_tokensWithin (fun member => bare ?_) rest'
            rw [split]
            exact List.mem_append_right _ member
          exact ⟨isName_of_anyIdent? scanned, [], left, split, List.forall_mem_nil _, spaces,
            endsName_of_isSpace spaces ends⟩

end Lexer

/-- A text without comments is its identifier with blanks around. -/
theorem pads_of_ident? (bare : IsBare text) (found : ident? text = some name) :
    Lexer.Pads name.toList text.toList := by
  have lexed := tokens_of_ident? found
  rw [IsBare] at bare
  generalize text.toList = cs at bare lexed
  cases cs with
  | nil => cases lexed
  | cons c rest =>
    rw [Lexer.tokens, if_neg (bare c List.mem_cons_self).2] at lexed
    exact Lexer.pads_of_tokensWithin (fun member => (bare '/' member).1 rfl) lexed

theorem IsBare.visible (bare : IsBare text) {cs : List Char} (pads : Lexer.Pads cs text.toList) :
    Visible text.toList := by
  have nonempty : text.toList ≠ [] := by
    obtain ⟨named, before, after, split, -⟩ := pads
    obtain ⟨c, more, rfl, -⟩ := named.exists_start
    simp [split]
  obtain ⟨c, more, first⟩ := List.exists_cons_of_ne_nil nonempty
  rw [IsBare, first] at bare
  exact ⟨c, more, first, bare c List.mem_cons_self⟩

/-! ### In other code -/

namespace Spells

open Lexer (EndsName isSpace)

variable {cs after : List Char} {size : Nat} {trees : List Tree}

theorem space {c : Char} (isSpace : isSpace c = true) (after : List Char) : Spells [c] after 0 [] :=
  ⟨[], rfl, .of_step (by simp) (by simp [Lexer.step, isSpace]), fun _ _ _ => rfl⟩

theorem spaces (spaces : ∀ c ∈ cs, isSpace c = true) (after : List Char) : Spells cs after 0 [] := by
  induction cs with
  | nil => exact .nil after
  | cons c cs ih =>
    obtain ⟨first, others⟩ := List.forall_mem_cons.mp spaces
    exact (Spells.space first (cs ++ after)).append (ih others)

theorem padded {name : List Char} (pads : Lexer.Pads name cs) (ends : EndsName after) :
    Spells cs after 1 [.ident (String.ofList name)] := by
  obtain ⟨named, front, back, rfl, before, behind, closes⟩ := pads
  have ends : EndsName (back ++ after) := by
    cases back with
    | nil => exact ends
    | cons c back => exact closes
  exact (Spells.spaces before _).append ((Spells.name named ends).append (.spaces behind after))

end Spells

end Companion.Code

import Companion.Proofs.Code.Borders
import Companion.Proofs.Code.StringLiterals

/-! Literals and comments that end at marks of their own, whatever comes behind. -/

set_option autoImplicit false

namespace Companion.Code.Lexer

section

variable {cs after after' left taken : List Char}

/-! ### Literals that end at marks of their own -/

/-- A scanner that takes what it takes whatever comes behind. -/
def Closed (scan : List Char → Option Scanned) : Prop :=
  ∀ cs taken left, scan cs = some (taken, left) →
    taken ≠ [] ∧ cs = taken ++ left ∧ ∀ other, scan (taken ++ other) = some (taken, other)

theorem closed_cookedString (q : Quoted) (state : StringScan) : Closed (cookedString q state) := by
  intro cs taken left found
  induction cs generalizing state taken with
  | nil => cases found
  | cons c rest ih =>
    rw [cookedString] at found
    split at found
    next closes =>
      cases found
      obtain ⟨rfl, body⟩ := closes
      exact ⟨by simp, rfl, fun other => by simp [cookedString, body]⟩
    next inside =>
      split at found
      next next stepped =>
        obtain ⟨⟨more, left'⟩, others, same⟩ := Option.map_eq_some_iff.mp found
        cases same
        obtain ⟨-, rfl, again⟩ := ih next more others
        refine ⟨by simp, rfl, fun other => ?_⟩
        simp [cookedString, inside, stepped, again, Scanned.cons]
      next => cases found

theorem rawString_eq_some {q : Quoted} {hashes cs taken left : List Char}
    (found : rawString q hashes cs = some (taken, left)) :
    hashes.length < taken.length ∧ cs = taken ++ left ∧
      ∀ other, rawString q hashes (taken ++ other) = some (taken, other) := by
  induction cs generalizing taken with
  | nil => cases found
  | cons c rest ih =>
    rw [rawString] at found
    split at found
    next quote =>
      subst quote
      split at found
      next closed =>
        cases found
        rw [List.isPrefixOf?_eq_some_iff_append_eq] at closed
        refine ⟨by simp, by rw [← closed]; rfl, fun other => ?_⟩
        have again : hashes.isPrefixOf? (hashes ++ other) = some other :=
          List.isPrefixOf?_eq_some_iff_append_eq.mpr rfl
        simp [rawString, again]
      next unclosed =>
        obtain ⟨⟨more, left'⟩, others, same⟩ := Option.map_eq_some_iff.mp found
        cases same
        obtain ⟨long, rfl, again⟩ := ih others
        refine ⟨Nat.lt_succ_of_lt long, rfl, fun other => ?_⟩
        -- the hashes that close the string are in what it takes, so none can come from behind
        have inside : hashes.isPrefixOf? (more ++ other) = none := by
          by_contra closes
          obtain ⟨behind, closes⟩ := Option.ne_none_iff_exists'.mp closes
          have start : hashes <+: more ++ other :=
            ⟨behind, List.isPrefixOf?_eq_some_iff_append_eq.mp closes⟩
          have within := List.prefix_of_prefix_length_le start (List.prefix_append more other)
            (Nat.le_of_lt long)
          obtain ⟨behind, same⟩ := within.trans (List.prefix_append more left')
          rw [List.isPrefixOf?_eq_some_iff_append_eq.mpr same] at unclosed
          cases unclosed
        simp [rawString, inside, again, Scanned.cons]
    next inside =>
      split at found
      · cases found
      next paired =>
        split at found
        next admitted =>
          obtain ⟨⟨more, left'⟩, others, same⟩ := Option.map_eq_some_iff.mp found
          cases same
          obtain ⟨long, rfl, again⟩ := ih others
          refine ⟨Nat.lt_succ_of_lt long, rfl, fun other => ?_⟩
          have head (ds : List Char) : (more ++ ds).head? = more.head? := by
            cases more with
            | nil => cases long
            | cons => rfl
          rw [head] at paired
          simp [rawString, inside, head, paired, admitted, again, Scanned.cons]
        next => cases found

theorem closed_rawString (q : Quoted) (hashes : List Char) : Closed (rawString q hashes) := by
  intro cs taken left found
  obtain ⟨long, split⟩ := rawString_eq_some found
  exact ⟨List.ne_nil_of_length_pos (Nat.zero_lt_of_lt long), split⟩

theorem exists_hashes {q : Quoted} {s : Scanned} (found : rawFromHashes q cs = some s) :
    ∃ n rest, cs = List.replicate n '#' ++ '"' :: rest := by
  have hashes : cs.takeWhile (· = '#') = List.replicate (cs.takeWhile (· = '#')).length '#' :=
    List.eq_replicate_iff.mpr ⟨rfl, fun c member => by simpa using List.mem_takeWhile_imp member⟩
  have whole : cs.takeWhile (· = '#') ++ cs.dropWhile (· = '#') = cs :=
    List.takeWhile_append_dropWhile
  unfold rawFromHashes at found
  split at found
  next rest opened =>
    rw [opened, hashes] at whole
    exact ⟨_, rest, whole.symm⟩
  next => cases found

theorem closed_rawFromHashes (q : Quoted) : Closed (rawFromHashes q) := by
  intro cs taken left found
  obtain ⟨n, rest, rfl⟩ := exists_hashes found
  rw [StringLiteral.rawFromHashes_append] at found
  obtain ⟨few, found⟩ := Option.ite_none_right_eq_some.mp found
  obtain ⟨⟨more, left'⟩, others, same⟩ := Option.map_eq_some_iff.mp found
  cases same
  obtain ⟨-, rfl, again⟩ := closed_rawString q _ _ _ _ others
  refine ⟨by simp, by simp, fun other => ?_⟩
  rw [List.append_assoc, List.append_assoc, List.singleton_append,
    StringLiteral.rawFromHashes_append, if_pos few, again]
  simp [Scanned.prepend]

theorem closed_codePoint (state : StringScan) : Closed (codePoint state) := by
  intro cs taken left found
  induction cs generalizing state taken with
  | nil => cases found
  | cons c rest ih =>
    rw [codePoint] at found
    split at found
    next back =>
      cases found
      exact ⟨by simp, rfl, fun other => by simp [codePoint, back]⟩
    next next goesOn stepped =>
      obtain ⟨⟨more, left'⟩, others, same⟩ := Option.map_eq_some_iff.mp found
      cases same
      obtain ⟨-, rfl, again⟩ := ih next more others
      refine ⟨by simp, rfl, fun other => ?_⟩
      rw [List.cons_append, codePoint]
      split
      next back =>
        cases stepped.symm.trans back
        exact absurd rfl goesOn
      next stepped' =>
        cases stepped.symm.trans stepped'
        rw [again]
        rfl
      next none =>
        cases stepped.symm.trans none
    next => cases found

theorem escapes_ne {q : Quoted} {c : Char} (escaped : q.escapes c = true) : c ≠ 'x' ∧ c ≠ 'u' := by
  constructor <;> rintro rfl <;> cases q <;> exact absurd escaped (by decide)

theorem quotedChar?_escaped {c : Char} (escaped : Quoted.text.escapes c = true) (rest : List Char) :
    quotedChar? ('\\' :: c :: rest) = some (['\\', c], rest) := by
  obtain ⟨hex, braced⟩ := escapes_ne escaped
  unfold quotedChar?
  split
  next same =>
    cases same
    exact absurd rfl hex
  next same =>
    cases same
    exact absurd rfl braced
  next same =>
    cases same
    rw [if_pos escaped]
  next same => cases same
  next excluded _ same =>
    cases same
    exact absurd rfl (excluded _ _ rfl)
  next same => cases same

theorem quotedChar?_plain {c : Char} (plain : c ≠ '\\') (rest : List Char) :
    quotedChar? (c :: rest) = some ([c], rest) := by
  unfold quotedChar?
  split <;> simp_all

theorem closed_quotedChar? : Closed quotedChar? := by
  intro cs taken left found
  unfold quotedChar? at found
  split at found
  next a b rest =>
    split at found
    next high low hex hex' =>
      split at found
      next small =>
        cases found
        exact ⟨by simp, rfl, fun other => by simp [quotedChar?, hex, hex', small]⟩
      next => cases found
    next => cases found
  next rest =>
    obtain ⟨⟨more, left'⟩, others, same⟩ := Option.map_eq_some_iff.mp found
    cases same
    obtain ⟨-, rfl, again⟩ := closed_codePoint _ _ _ _ others
    exact ⟨by simp, rfl, fun other => by simp [quotedChar?, again, Scanned.prepend]⟩
  next c rest _ _ =>
    split at found
    next escaped =>
      cases found
      exact ⟨by simp, rfl, fun other => quotedChar?_escaped escaped other⟩
    next => cases found
  next => cases found
  next c rest _ _ only plain =>
    cases found
    have other : c ≠ '\\' := by
      rintro rfl
      cases left with
      | nil => exact plain rfl rfl
      | cons d left => exact only d left rfl rfl
    exact ⟨by simp, rfl, fun ds => quotedChar?_plain other ds⟩
  next => cases found

theorem quotedByte?_escaped {c : Char} (escaped : Quoted.bytes.escapes c = true)
    (rest : List Char) :
    quotedByte? ('\\' :: c :: rest) = some (['\\', c], rest) := by
  obtain ⟨hex, -⟩ := escapes_ne escaped
  unfold quotedByte?
  split
  next same =>
    cases same
    exact absurd rfl hex
  next same =>
    cases same
    rw [if_pos escaped]
  next same => cases same
  next excluded _ same =>
    cases same
    exact absurd rfl (excluded _ _ rfl)
  next same => cases same

theorem quotedByte?_plain {c : Char} (plain : c ≠ '\\') (ascii : c.toNat < 128) (rest : List Char) :
    quotedByte? (c :: rest) = some ([c], rest) := by
  unfold quotedByte?
  split <;> simp_all

theorem closed_quotedByte? : Closed quotedByte? := by
  intro cs taken left found
  unfold quotedByte? at found
  split at found
  next a b rest =>
    split at found
    next high low hex hex' =>
      cases found
      exact ⟨by simp, rfl, fun other => by simp [quotedByte?, hex, hex']⟩
    next => cases found
  next c rest _ =>
    split at found
    next escaped =>
      cases found
      exact ⟨by simp, rfl, fun other => quotedByte?_escaped escaped other⟩
    next => cases found
  next => cases found
  next c rest _ only plain =>
    split at found
    next ascii =>
      cases found
      have other : c ≠ '\\' := by
        rintro rfl
        cases left with
        | nil => exact plain rfl rfl
        | cons d left => exact only d left rfl rfl
      exact ⟨by simp, rfl, fun ds => quotedByte?_plain other ascii ds⟩
    next => cases found
  next => cases found

/-- A character is closed by a quote. -/
theorem closed_closeQuote {scan : List Char → Option Scanned} (closed : Closed scan) :
    Closed fun cs => (scan cs).bind closeQuote := by
  intro cs taken left found
  obtain ⟨⟨more, rest⟩, scanned, closes⟩ := Option.bind_eq_some_iff.mp found
  obtain ⟨-, rfl, again⟩ := closed cs more rest scanned
  unfold closeQuote at closes
  split at closes
  next same =>
    cases same
    cases closes
    refine ⟨by simp, by simp, fun other => ?_⟩
    rw [List.append_assoc, List.singleton_append]
    simp [again, closeQuote]
  next => cases closes

theorem Closed.prepend {scan scan' : List Char → Option Scanned} (closed : Closed scan)
    (front : List Char)
    (same : ∀ cs, scan' (front ++ cs) = (scan cs).map (Scanned.prepend front))
    {cs taken left : List Char}
    (found : scan' (front ++ cs) = some (taken, left)) :
    taken ≠ [] ∧ front ++ cs = taken ++ left ∧
      ∀ other, scan' (taken ++ other) = some (taken, other) := by
  rw [same, Option.map_eq_some_iff] at found
  obtain ⟨⟨more, left'⟩, scanned, same'⟩ := found
  cases same'
  obtain ⟨nonempty, rfl, again⟩ := closed cs more left' scanned
  refine ⟨by simp [nonempty], by simp, fun other => ?_⟩
  rw [List.append_assoc, same, again]
  rfl

theorem closed_quoted? : Closed quoted? := by
  intro cs taken left found
  unfold quoted? at found
  split at found
  next rest => exact (closed_cookedString .text .body).prepend ['"'] (fun _ => rfl) found
  next rest => exact (closed_rawFromHashes .text).prepend ['r'] (fun _ => rfl) found
  next rest => exact (closed_cookedString .bytes .body).prepend ['b', '"'] (fun _ => rfl) found
  next rest => exact (closed_rawFromHashes .bytes).prepend ['b', 'r'] (fun _ => rfl) found
  next rest => exact (closed_cookedString .zeroEnded .body).prepend ['c', '"'] (fun _ => rfl) found
  next rest => exact (closed_rawFromHashes .zeroEnded).prepend ['c', 'r'] (fun _ => rfl) found
  next => cases found

theorem closed_character? : Closed character? := by
  intro cs taken left found
  unfold character? at found
  split at found
  next rest =>
    exact (closed_closeQuote closed_quotedByte?).prepend ['b', '\''] (fun _ => rfl) found
  next rest => exact (closed_closeQuote closed_quotedChar?).prepend ['\''] (fun _ => rfl) found
  next => cases found

theorem closed_blockComment (depth : Nat) : Closed (blockComment depth) := by
  intro cs taken left found
  fun_induction blockComment depth cs generalizing taken with
  | case1 => cases found
  | case2 depth rest ih =>
    obtain ⟨⟨more, left'⟩, others, same⟩ := Option.map_eq_some_iff.mp found
    cases same
    obtain ⟨-, rfl, again⟩ := ih more others
    exact ⟨by simp, rfl, fun other => by simp [blockComment, Scanned.prepend, again]⟩
  | case3 depth rest outermost =>
    cases found
    exact ⟨by simp, rfl, fun other => by simp [blockComment, outermost]⟩
  | case4 depth rest nested ih =>
    obtain ⟨⟨more, left'⟩, others, same⟩ := Option.map_eq_some_iff.mp found
    cases same
    obtain ⟨-, rfl, again⟩ := ih more others
    exact ⟨by simp, rfl, fun other => by simp [blockComment, Scanned.prepend, again, nested]⟩
  | case5 depth c rest opens closes ih =>
    obtain ⟨⟨more, left'⟩, others, same⟩ := Option.map_eq_some_iff.mp found
    cases same
    obtain ⟨nonempty, rfl, again⟩ := ih more others
    refine ⟨by simp, rfl, fun other => ?_⟩
    have head (ds : List Char) : (more ++ ds).head? = more.head? := by
      cases more with
      | nil => exact absurd rfl nonempty
      | cons => rfl
    rw [List.cons_append, blockComment, again]
    · rfl
    · intro rest slash same
      have star : (more ++ left').head? = some '*' := by
        rw [head, ← head other, same]
        rfl
      obtain ⟨rest, same⟩ := List.head?_eq_some_iff.mp star
      exact opens rest slash same
    · intro rest star same
      have slash : (more ++ left').head? = some '/' := by
        rw [head, ← head other, same]
        rfl
      obtain ⟨rest, same⟩ := List.head?_eq_some_iff.mp slash
      exact closes rest star same

/-! ### Comments -/

/-- What stands behind two slashes documents something. -/
def isDocLine : List Char → Bool
  | '!' :: _ => true
  | '/' :: '/' :: _ => false
  | '/' :: _ => true
  | _ => false

/-- What stands behind a slash and a star documents something. -/
def isDocBlock : List Char → Bool
  | '!' :: _ => true
  | '*' :: '*' :: _ => false
  | '*' :: '/' :: _ => false
  | '*' :: _ => true
  | _ => false

theorem leaf?_slash {rest : List Char} (opens : rest.head? = some '/' ∨ rest.head? = some '*') :
    leaf? ('/' :: rest) = none := by
  have literal : literal? ('/' :: rest) = none := rfl
  have punct : punct? ('/' :: rest) = none := by
    have unmarked : mark? ('/' :: rest) = none := by rw [mark?, if_pos ⟨rfl, opens⟩]
    rw [punct?, unmarked]
  have ident : ident? ('/' :: rest) = none := by
    have unnamed : anyIdent? ('/' :: rest) = none := rfl
    rw [ident?, unnamed, ite_self]
  simp [leaf?, literal, punct, ident]

theorem step_slash {rest : List Char} (opens : rest.head? = some '/' ∨ rest.head? = some '*') :
    step ('/' :: rest) = match plainComment? ('/' :: rest) with
      | some rest => some ([], rest)
      | none => (docComment? ('/' :: rest)).map fun comment => (comment.tokens, comment.rest) := by
  have space : isSpace '/' = false := by decide
  have failed : failed? ('/' :: rest) = none := rfl
  rw [step, space, leaf?_slash opens, failed]
  cases plainComment? ('/' :: rest) with
  | some rest => rfl
  | none => cases docComment? ('/' :: rest) <;> rfl

/-- What may stand behind the first two characters of a comment: a mark that documents what comes
next or what is around, the end, or another character. -/
@[elab_as_elim]
theorem comment_cases {motive : List Char → Prop} (mark : Char) (body : List Char)
    (nil : motive []) (inner : ∀ more, motive ('!' :: more)) (single : motive [mark])
    (outer : ∀ d more, motive (mark :: d :: more))
    (other : ∀ c more, c ≠ '!' → c ≠ mark → motive (c :: more)) : motive body := by
  rcases body with - | ⟨c, body⟩
  · exact nil
  by_cases bang : c = '!'
  · subst bang
    exact inner body
  by_cases marked : c = mark
  · subst marked
    rcases body with - | ⟨d, body⟩
    · exact single
    · exact outer d body
  exact other c body bang marked

theorem plainComment?_line (body : List Char) :
    plainComment? ('/' :: '/' :: body) =
      if isDocLine body then none else some (toLineEnd body).2 := by
  cases body using comment_cases '/' with
  | nil | inner | single => rfl
  | outer d body =>
    by_cases slash : d = '/'
    · subst slash
      simp [plainComment?, isDocLine, toLineEnd, Scanned.cons]
    · simp [plainComment?, isDocLine, slash]
  | other c body bang slash => simp [plainComment?, isDocLine, bang, slash]

theorem docComment?_line (body : List Char) :
    docComment? ('/' :: '/' :: body) =
      if isDocLine body then
        (ofLine (body.head? = some '!') body.tail).filter fun comment => returnsPaired comment.text
      else none := by
  cases body using comment_cases '/' with
  | nil | inner | single => rfl
  | outer d body =>
    by_cases slash : d = '/'
    · subst slash
      rfl
    · simp [docComment?, isDocLine, slash]
  | other c body bang slash => simp [docComment?, isDocLine, bang, slash]

theorem plainComment?_block (body : List Char) :
    plainComment? ('/' :: '*' :: body) =
      if isDocBlock body then none
      else (blockComment 0 ('/' :: '*' :: body)).map Prod.snd := by
  cases body using comment_cases '*' with
  | nil | inner | single => rfl
  | outer d body =>
    by_cases star : d = '*'
    · subst star
      rfl
    by_cases slash : d = '/'
    · subst slash
      simp [plainComment?, blockComment, isDocBlock, Scanned.prepend]
    · simp [plainComment?, isDocBlock, star, slash]
  | other c body bang star => simp [plainComment?, isDocBlock, bang, star]

theorem docComment?_block (body : List Char)
    (unclosed : body.head? = some '*' → body.tail.head? ≠ some '/') :
    docComment? ('/' :: '*' :: body) =
      if isDocBlock body then
        (ofBlock (body.head? = some '!') ('/' :: '*' :: body)).filter fun comment =>
          returnsPaired comment.text
      else none := by
  cases body using comment_cases '*' with
  | nil | inner | single => rfl
  | outer d body =>
    by_cases star : d = '*'
    · subst star
      rfl
    by_cases slash : d = '/'
    · subst slash
      exact absurd rfl (unclosed rfl)
    · simp [docComment?, isDocBlock, star, slash]
  | other c body bang star => simp [docComment?, isDocBlock, bang, star]

end

end Companion.Code.Lexer

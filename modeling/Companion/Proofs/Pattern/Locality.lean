import Companion.Proofs.Pattern.Consumption

/-! What is read of a text that stands alone is read alike before a closing parenthesis, unless a
comment runs over the parenthesis to the end of its line.

A reader may look ahead: one that goes no further than to see that something follows is local up to
the end of the text, and with a reader after it that takes a character it is local. -/

set_option autoImplicit false
set_option synthInstance.maxSize 4000

namespace Companion.Pattern

/-- The state with more text behind what is left. -/
def ParserState.before (s : ParserState) (t : List Char) : ParserState :=
  { s with rest := s.rest ++ t }

@[simp]
theorem ParserState.before_rest (s : ParserState) (t : List Char) :
    (s.before t).rest = s.rest ++ t := rfl

theorem ParserState.length_lt_before (s : ParserState) (t : List Char) :
    s.rest.length < (s.before t).rest.length + 1 := by
  rw [before_rest, List.length_append]
  omega

/-- What may end in a comment: after the last sign that could open one there is no end of line. -/
def EndsInComment (cs : List Char) : Prop :=
  ∃ before comment, cs = before ++ '#' :: comment ∧ '\n' ∉ comment

theorem EndsInComment.of_suffix {cs cs' : List Char} (ends : EndsInComment cs')
    (suffix : cs' <:+ cs) : EndsInComment cs := by
  obtain ⟨before, comment, rfl, line⟩ := ends
  obtain ⟨more, rfl⟩ := suffix
  exact ⟨more ++ before, comment, by simp, line⟩

namespace Parser

variable {α β : Type} {t : List Char} {s : ParserState}

/-- From a state on, one reader of the text alone and another of the text before `t` do the same:
what the second reads without touching `t` the first reads, and what the first reads the second
reads, unless a comment takes the first line of `t`. -/
structure LocalAt (t : List Char) (s : ParserState) (P P' : Parser α) : Prop where
  truncate : ∀ {a s'}, P'.run (s.before t) = some (a, s') → t.length ≤ s'.rest.length →
    ∃ s₁, P.run s = some (a, s₁) ∧ s' = s₁.before t
  extend : ∀ {a s₁}, '\n' ∉ t → P.run s = some (a, s₁) →
    P'.run (s.before t) = some (a, s₁.before t) ∨
      (s₁.rest = [] ∧ EndsInComment s.rest ∧ P'.run (s.before t) = some (a, s₁))
  atEnd : s.rest = [] → P.run s = P'.run s

/-- The same as long as there is text before `t`. -/
structure NearlyLocalAt (t : List Char) (s : ParserState) (P P' : Parser α) : Prop where
  truncate : ∀ {a s'}, P'.run (s.before t) = some (a, s') → t.length < s'.rest.length →
    ∃ s₁, P.run s = some (a, s₁) ∧ s' = s₁.before t
  extend : ∀ {a s₁}, '\n' ∉ t → P.run s = some (a, s₁) → s₁.rest ≠ [] →
    P'.run (s.before t) = some (a, s₁.before t)
  atEnd : s.rest = [] → P.run s = P'.run s

section Steps

variable {P P' : Parser α} {Q Q' : α → Parser β}

theorem LocalAt.nearly (same : LocalAt t s P P') : NearlyLocalAt t s P P' where
  truncate read long := same.truncate read long.le
  extend line read more := by
    obtain read | ⟨atEnd, -⟩ := same.extend line read
    · exact read
    · exact absurd atEnd more
  atEnd := same.atEnd

/-- A reader that does the same whatever follows. -/
theorem LocalAt.of_map (same : P'.run (s.before t) = (P.run s).map fun r => (r.1, r.2.before t))
    (atEnd : s.rest = [] → P.run s = P'.run s) : LocalAt t s P P' where
  truncate read _ := by
    rw [same] at read
    obtain ⟨⟨a, s₁⟩, bare, same⟩ := Option.map_eq_some_iff.1 read
    cases same
    exact ⟨s₁, bare, rfl⟩
  extend _ read := .inl (by rw [same, read]; rfl)
  atEnd := atEnd

theorem LocalAt.congr {R R' : Parser α} (same : LocalAt t s R R') (bare : P.run s = R.run s)
    (bordered : P'.run (s.before t) = R'.run (s.before t))
    (atEnd : s.rest = [] → P.run s = P'.run s) : LocalAt t s P P' where
  truncate read := bare ▸ same.truncate (bordered ▸ read)
  extend line read := bordered ▸ same.extend line (bare ▸ read)
  atEnd := atEnd

theorem NearlyLocalAt.of_rest_eq_nil [Shrinks P] [Shrinks P'] (atEnd : s.rest = [])
    (same : P.run s = P'.run s) : NearlyLocalAt t s P P' where
  truncate read long := by
    have := Shrinks.length_le read
    simp only [ParserState.before_rest, atEnd, List.nil_append] at this
    omega
  extend _ read more := absurd (Shrinks.rest_eq_nil read atEnd) more
  atEnd _ := same

theorem LocalAt.of_rest_eq_nil [Strict P] [Strict P'] (atEnd : s.rest = []) :
    LocalAt t s P P' where
  truncate read long := by
    have := Strict.shorter read
    simp only [ParserState.before_rest, atEnd, List.nil_append] at this
    omega
  extend _ read := absurd atEnd (Strict.rest_ne_nil read)
  atEnd _ := by
    have fails : ∀ {P : Parser α} [Strict P], P.run s = none := fun {P} _ => by
      cases read : P.run s with
      | none => rfl
      | some => exact absurd atEnd (Strict.rest_ne_nil read)
    rw [fails, fails]

theorem bind_run_congr (first : P.run s = P'.run s)
    (next : ∀ a s₁, P.run s = some (a, s₁) → (Q a).run s₁ = (Q' a).run s₁) :
    (P >>= Q).run s = (P' >>= Q').run s := by
  simp only [StateT.run_bind, ← first]
  exact Option.bind_congr fun r read => next r.1 r.2 read

section Bind

variable [Shrinks P]

theorem LocalAt.bind [∀ a, Shrinks (Q a)] [∀ a, Shrinks (Q' a)] (first : LocalAt t s P P')
    (next : ∀ a s₁, P.run s = some (a, s₁) → LocalAt t s₁ (Q a) (Q' a)) :
    LocalAt t s (P >>= Q) (P' >>= Q') where
  truncate read long := by
    obtain ⟨a, s₀, read', then_⟩ := bind_run_eq_some.1 read
    obtain ⟨s₁, bare, rfl⟩ := first.truncate read' (long.trans (Shrinks.length_le then_))
    obtain ⟨s₂, bareThen, rfl⟩ := (next a s₁ bare).truncate then_ long
    exact ⟨s₂, bind_run_eq_some.2 ⟨a, s₁, bare, bareThen⟩, rfl⟩
  extend {b s₂} line read := by
    obtain ⟨a, s₁, read, then_⟩ := bind_run_eq_some.1 read
    obtain read' | ⟨atEnd, ends, read'⟩ := first.extend line read
    · obtain then' | ⟨atEnd, ends, then'⟩ := (next a s₁ read).extend line then_
      · exact .inl (bind_run_eq_some.2 ⟨a, _, read', then'⟩)
      · refine .inr ⟨atEnd, ends.of_suffix (Shrinks.suffix read), ?_⟩
        exact bind_run_eq_some.2 ⟨a, _, read', then'⟩
    · -- The comment has taken the line, and the rest is read at the end of the text.
      refine .inr ⟨Shrinks.rest_eq_nil then_ atEnd, ends, ?_⟩
      rw [(next a s₁ read).atEnd atEnd] at then_
      exact bind_run_eq_some.2 ⟨a, s₁, read', then_⟩
  atEnd atEnd := bind_run_congr (first.atEnd atEnd) fun a s₁ read =>
    (next a s₁ read).atEnd (Shrinks.rest_eq_nil read atEnd)

theorem NearlyLocalAt.bind [∀ a, Shrinks (Q a)] [∀ a, Shrinks (Q' a)]
    (first : NearlyLocalAt t s P P')
    (next : ∀ a s₁, P.run s = some (a, s₁) → NearlyLocalAt t s₁ (Q a) (Q' a)) :
    NearlyLocalAt t s (P >>= Q) (P' >>= Q') where
  truncate read long := by
    obtain ⟨a, s₀, read', then_⟩ := bind_run_eq_some.1 read
    obtain ⟨s₁, bare, rfl⟩ := first.truncate read' (long.trans_le (Shrinks.length_le then_))
    obtain ⟨s₂, bareThen, rfl⟩ := (next a s₁ bare).truncate then_ long
    exact ⟨s₂, bind_run_eq_some.2 ⟨a, s₁, bare, bareThen⟩, rfl⟩
  extend {b s₂} line read more := by
    obtain ⟨a, s₁, read, then_⟩ := bind_run_eq_some.1 read
    have read' := first.extend line read fun atEnd => more (Shrinks.rest_eq_nil then_ atEnd)
    exact bind_run_eq_some.2 ⟨a, _, read', (next a s₁ read).extend line then_ more⟩
  atEnd atEnd := bind_run_congr (first.atEnd atEnd) fun a s₁ read =>
    (next a s₁ read).atEnd (Shrinks.rest_eq_nil read atEnd)

/-- What has only looked ahead does not matter once a character is taken. -/
theorem NearlyLocalAt.bind_strict [∀ a, Strict (Q a)] [∀ a, Strict (Q' a)]
    (first : NearlyLocalAt t s P P')
    (next : ∀ a s₁, P.run s = some (a, s₁) → LocalAt t s₁ (Q a) (Q' a)) :
    LocalAt t s (P >>= Q) (P' >>= Q') where
  truncate read long := by
    obtain ⟨a, s₀, read', then_⟩ := bind_run_eq_some.1 read
    obtain ⟨s₁, bare, rfl⟩ := first.truncate read' (long.trans_lt (Strict.shorter then_))
    obtain ⟨s₂, bareThen, rfl⟩ := (next a s₁ bare).truncate then_ long
    exact ⟨s₂, bind_run_eq_some.2 ⟨a, s₁, bare, bareThen⟩, rfl⟩
  extend {b s₂} line read := by
    obtain ⟨a, s₁, read, then_⟩ := bind_run_eq_some.1 read
    have read' := first.extend line read (Strict.rest_ne_nil then_)
    obtain then' | ⟨atEnd, ends, then'⟩ := (next a s₁ read).extend line then_
    · exact .inl (bind_run_eq_some.2 ⟨a, _, read', then'⟩)
    · refine .inr ⟨atEnd, ends.of_suffix (Shrinks.suffix read), ?_⟩
      exact bind_run_eq_some.2 ⟨a, _, read', then'⟩
  atEnd atEnd := bind_run_congr (first.atEnd atEnd) fun a s₁ read =>
    (next a s₁ read).atEnd (Shrinks.rest_eq_nil read atEnd)

end Bind

end Steps

/-- What comes next is a closing parenthesis. -/
def Border (t : List Char) : Prop := t.head? = some ')'

/-- Nothing comes next, or a closing parenthesis. -/
def Outside (t : List Char) : Prop := t = [] ∨ Border t

class Local (P : Parser α) : Prop extends Shrinks P where
  before : ∀ {t : List Char}, Border t → ∀ s, LocalAt t s P P

class NearlyLocal (P : Parser α) : Prop extends Shrinks P where
  before : ∀ {t : List Char}, Border t → ∀ s, NearlyLocalAt t s P P

section Readers

variable {P P' : Parser α} {Q : α → Parser β}

theorem LocalAt.refl : LocalAt [] s P P where
  truncate {a s'} read _ := ⟨s', by simpa [ParserState.before] using read, by simp [ParserState.before]⟩
  extend _ read := .inl (by simpa [ParserState.before] using read)
  atEnd _ := rfl

theorem Local.localAt [Local P] (outside : Outside t) (s : ParserState) : LocalAt t s P P := by
  obtain rfl | border := outside
  · exact .refl
  · exact Local.before border s

theorem NearlyLocal.localAt [NearlyLocal P] (outside : Outside t) (s : ParserState) :
    NearlyLocalAt t s P P := by
  obtain rfl | border := outside
  · exact LocalAt.refl.nearly
  · exact NearlyLocal.before border s

instance [Local P] : NearlyLocal P where
  before border s := (Local.before border s).nearly

instance Local.bind [Local P] [∀ a, Local (Q a)] : Local (P >>= Q) where
  before border s := (Local.before border s).bind fun _ s₁ _ => Local.before border s₁

instance Local.bind_strict [NearlyLocal P] [∀ a, Local (Q a)] [∀ a, Strict (Q a)] :
    Local (P >>= Q) where
  before border s :=
    (NearlyLocal.before border s).bind_strict fun _ s₁ _ => Local.before border s₁

instance NearlyLocal.bind [NearlyLocal P] [∀ a, NearlyLocal (Q a)] : NearlyLocal (P >>= Q) where
  before border s :=
    (NearlyLocal.before border s).bind fun _ s₁ _ => NearlyLocal.before border s₁

theorem Local.of_map [Shrinks P] (same : ∀ {t : List Char}, Border t → ∀ s,
    P.run (s.before t) = (P.run s).map fun r => (r.1, r.2.before t)) : Local P where
  before border s := LocalAt.of_map (same border s) fun _ => rfl

instance (a : α) : Local (pure a : Parser α) := .of_map fun _ _ => rfl
instance : Local (failure : Parser α) := .of_map fun _ _ => rfl

instance (o : Option α) : Local (liftM o : Parser α) := .of_map fun _ _ => by
  cases o <;> rfl

instance {c : Prop} [Decidable c] [Local P] [Local P'] : Local (if c then P else P') := by
  split <;> infer_instance

instance {c : Prop} [Decidable c] [NearlyLocal P] [NearlyLocal P'] :
    NearlyLocal (if c then P else P') := by split <;> infer_instance

instance {c : Prop} [Decidable c] : Local (guard c : Parser Unit) :=
  inferInstanceAs (Local (if c then pure () else failure))

theorem Border.eq_cons {t : List Char} (border : Border t) : ∃ others, t = ')' :: others := by
  cases t with
  | nil => cases border
  | cons c others => exact ⟨others, congrArg (· :: others) (Option.some.inj border)⟩

/-- It is enough to look at states with text left when a character is taken. -/
theorem Local.of_ne_nil [Strict P] (same : ∀ {t : List Char}, Border t → ∀ s, s.rest ≠ [] →
    P.run (s.before t) = (P.run s).map fun r => (r.1, r.2.before t)) : Local P where
  before border s := by
    by_cases more : s.rest = []
    · exact LocalAt.of_rest_eq_nil more
    · exact LocalAt.of_map (same border s more) fun _ => rfl

theorem NearlyLocal.of_ne_nil [Shrinks P] (same : ∀ {t : List Char}, Border t → ∀ s,
    s.rest ≠ [] → P.run (s.before t) = (P.run s).map fun r => (r.1, r.2.before t)) :
    NearlyLocal P where
  before border s := by
    by_cases more : s.rest = []
    · exact NearlyLocalAt.of_rest_eq_nil more rfl
    · exact (LocalAt.of_map (same border s more) fun _ => rfl).nearly

end Readers

/-! ### Single characters -/

theorem dropBlanks_comment {cs : List Char} (line : '\n' ∉ cs) : dropBlanks true cs = [] := by
  induction cs with
  | nil => rfl
  | cons c cs ih =>
    have apart : c ≠ '\n' := fun same => line (same ▸ List.mem_cons_self)
    simpa [dropBlanks, apart] using ih (List.not_mem_of_not_mem_cons line)

/-- Blanks are passed alike before a parenthesis, unless a comment passes it too. -/
theorem dropBlanks_append {t : List Char} (border : Border t) (inComment : Bool) (cs : List Char) :
    dropBlanks inComment (cs ++ t) = dropBlanks inComment cs ++ t ∨
      (dropBlanks inComment cs = [] ∧ (dropBlanks inComment (cs ++ t)).length < t.length ∧
        ((inComment ∧ '\n' ∉ cs) ∨ EndsInComment cs) ∧
        ('\n' ∉ t → dropBlanks inComment (cs ++ t) = [])) := by
  induction cs generalizing inComment with
  | nil =>
    obtain ⟨others, rfl⟩ := border.eq_cons
    cases inComment with
    | false => exact .inl rfl
    | true =>
      refine .inr ⟨rfl, ?_, by simp, dropBlanks_comment⟩
      exact Nat.lt_succ_of_le (dropBlanks_suffix true others).length_le
  | cons c cs ih =>
    have longer (ends : EndsInComment cs) : EndsInComment (c :: cs) :=
      ends.of_suffix (List.suffix_cons c cs)
    simp only [List.cons_append, dropBlanks]
    split_ifs with comment sign blank
    · obtain same | ⟨none, short, ends, line⟩ := ih (c ≠ '\n')
      · exact .inl same
      · refine .inr ⟨none, short, ?_, line⟩
        obtain ⟨apart, ends⟩ | ends := ends
        · have apart : c ≠ '\n' := of_decide_eq_true apart
          exact .inl ⟨comment, List.not_mem_cons_of_ne_of_not_mem apart.symm ends⟩
        · exact .inr (longer ends)
    · obtain same | ⟨none, short, ends, line⟩ := ih true
      · exact .inl same
      · refine .inr ⟨none, short, .inr ?_, line⟩
        obtain ⟨-, ends⟩ | ends := ends
        · exact ⟨[], cs, by rw [sign]; rfl, ends⟩
        · exact longer ends
    · obtain same | ⟨none, short, ends, line⟩ := ih false
      · exact .inl same
      · refine .inr ⟨none, short, .inr ?_, line⟩
        obtain ⟨false, -⟩ | ends := ends
        · cases false
        · exact longer ends
    · exact .inl rfl

instance : Local blanks where
  before {t} border s := by
    have run (s : ParserState) : blanks.run s = some ((), if s.ignoreBlanks then
        { s with rest := dropBlanks false s.rest } else s) := rfl
    by_cases ignored : s.ignoreBlanks
    · obtain same | ⟨none, short, ends, line⟩ := dropBlanks_append border false s.rest
      · refine LocalAt.of_map ?_ fun _ => rfl
        simp [run, ParserState.before, ignored, same]
      · refine { truncate := ?_, extend := ?_, atEnd := fun _ => rfl }
        · intro _ s' read long
          cases (run _).symm.trans read
          simp [ParserState.before, ignored] at long
          omega
        · intro _ s₁ newline read
          cases (run _).symm.trans read
          right
          simp_all [ParserState.before]
    · refine LocalAt.of_map ?_ fun _ => rfl
      simp [run, ParserState.before, ignored]

instance : Local bump := .of_ne_nil fun _ s more => by
  rw [bump_run, bump_run]
  cases left : s.rest with
  | nil => exact absurd left more
  | cons c rest => simp [ParserState.before, left]

instance : Local bumpAndBlanks := inferInstanceAs (Local (bump >>= _))

instance : NearlyLocal char := .of_ne_nil fun _ s more => by
  rw [char_run, char_run]
  cases left : s.rest with
  | nil => exact absurd left more
  | cons c rest => simp [left]

/-- What is found at the beginning of a text does not depend on a parenthesis after it. -/
def Continues (find : List Char → Option (α × List Char)) : Prop :=
  ∀ {t : List Char}, Border t → ∀ cs, find (cs ++ t) = (find cs).map fun r => (r.1, r.2 ++ t)

theorem Continues.local {find : List Char → Option (α × List Char)} (continues : Continues find)
    [Shrinks (takeIf find)] : Local (takeIf find) := .of_map fun {t} border s => by
  have same := continues border s.rest
  rw [takeIf_run, takeIf_run, ParserState.before_rest, same]
  cases find s.rest <;> rfl

theorem isPrefixOf?_append {t text : List Char} (border : Border t) (apart : ')' ∉ text)
    (cs : List Char) : text.isPrefixOf? (cs ++ t) = (text.isPrefixOf? cs).map (· ++ t) := by
  obtain ⟨others, rfl⟩ := border.eq_cons
  induction text generalizing cs with
  | nil => rfl
  | cons c text ih =>
    cases cs with
    | nil =>
      have : c ≠ ')' := fun same => apart (same ▸ List.mem_cons_self)
      simp [List.isPrefixOf?, this]
    | cons d cs =>
      simp only [List.cons_append, List.isPrefixOf?, ih (List.not_mem_of_not_mem_cons apart) cs]
      split <;> rfl

theorem bumpIf_local {text : String} (apart : ')' ∉ text.toList) : Local (bumpIf text) := by
  have continues : Continues (strip? text) := by
    intro t border cs
    simp only [strip?, isPrefixOf?_append border apart, Option.map_map]
    rfl
  have := continues.local
  unfold bumpIf
  infer_instance

instance : Local (bumpIf "?") := bumpIf_local (by simp)
instance : Local (bumpIf "?<") := bumpIf_local (by simp)
instance : Local (bumpIf "?P<") := bumpIf_local (by simp)
instance : Local (bumpIf "|") := bumpIf_local (by simp)

theorem isNext_local {texts : List String} (apart : ∀ text ∈ texts, ')' ∉ text.toList) :
    Local (isNext texts) := .of_map fun {t} border s => by
  have same : ∀ text ∈ texts, text.toList.isPrefixOf (s.rest ++ t) =
      text.toList.isPrefixOf s.rest := by
    intro text mem
    simp only [← List.isSome_isPrefixOf?_eq_isPrefixOf]
    rw [isPrefixOf?_append border (apart text mem), Option.isSome_map]
  have any : (texts.any fun text => text.toList.isPrefixOf (s.rest ++ t)) =
      texts.any fun text => text.toList.isPrefixOf s.rest := by
    rw [Bool.eq_iff_iff, List.any_eq_true, List.any_eq_true]
    exact exists_congr fun text => and_congr_right fun mem => by rw [same text mem]
  exact congrArg (some <| Prod.mk · (s.before t)) any

instance : Local (isNext ["?=", "?!", "?<=", "?<!"]) := isNext_local (by simp)

instance : NearlyLocal peek := .of_ne_nil fun {t} _ s more => by
  have same : (s.rest ++ t).head? = s.rest.head? := List.head?_append_of_ne_nil _ more
  exact congrArg (some <| Prod.mk · (s.before t)) same

theorem takeChars_run_of_rest_eq_nil {s : ParserState} (atEnd : s.rest = []) (p : Char → Bool)
    (k : Nat) : (takeChars p k).run s = some ([], s) := by
  obtain ⟨_, _, _, _⟩ := s
  cases atEnd
  cases k <;> rfl

/-- Characters are taken alike while there is text. The two readers differ in their fuel. -/
theorem takeChars_localAt {t : List Char} (outside : Outside t) (p : Char → Bool) {k k' : Nat}
    {s : ParserState} (enough : s.rest.length ≤ k) (enough' : s.rest.length ≤ k') :
    NearlyLocalAt t s (takeChars p k) (takeChars p k') := by
  induction k generalizing s k' with
  | zero =>
    have atEnd : s.rest = [] := List.length_eq_zero_iff.1 (by omega)
    exact .of_rest_eq_nil atEnd (by simp only [takeChars_run_of_rest_eq_nil atEnd])
  | succ k ih =>
    cases k' with
    | zero =>
      have atEnd : s.rest = [] := List.length_eq_zero_iff.1 (by omega)
      exact .of_rest_eq_nil atEnd (by simp only [takeChars_run_of_rest_eq_nil atEnd])
    | succ k' =>
      refine NearlyLocalAt.bind (NearlyLocal.localAt outside s) fun c s₁ peeked => ?_
      split
      · exact NearlyLocal.localAt outside s₁
      · refine NearlyLocalAt.bind (NearlyLocal.localAt outside s₁) fun c s₂ next => ?_
        refine NearlyLocalAt.bind (NearlyLocal.localAt outside s₂) fun _ s₃ taken => ?_
        have shorter := Strict.shorter taken
        have := Shrinks.length_le next
        have := Shrinks.length_le peeked
        refine NearlyLocalAt.bind (ih (by omega) (by omega)) fun cs s₄ _ => ?_
        exact NearlyLocal.localAt outside s₄

instance (p : Char → Bool) : NearlyLocal (takeAll p) where
  before {t} border s :=
    have shorter : s.rest.length ≤ (s.before t).rest.length := by simp
    have same := takeChars_localAt (.inr border) p le_rfl shorter
    { truncate := same.truncate, extend := same.extend, atEnd := fun _ => rfl }

end Parser

end Companion.Pattern

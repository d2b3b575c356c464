import Companion.Proofs.Pattern.Locality

/-! The constructs of a pattern are read alike at the end of the text and before a closing
parenthesis. -/

set_option autoImplicit false
set_option synthInstance.maxSize 4000

namespace Companion.Pattern.Parser

variable {α β : Type}

/-! ### What stands before a sign -/

theorem dropWhile_isBlank_append {t : List Char} (border : Border t) (cs : List Char) :
    (cs ++ t).dropWhile Chars.isBlank = cs.dropWhile Chars.isBlank ++ t := by
  obtain ⟨others, rfl⟩ := border.eq_cons
  rw [List.dropWhile_append]
  split
  next none => rw [List.isEmpty_iff.1 none]; rfl
  next => rfl

/-- What stands before a sign other than a parenthesis is the same before one, and without the
sign it has the parenthesis in it. -/
theorem upTo_append {t : List Char} (border : Border t) {d : Char} (apart : d ≠ ')')
    (cs : List Char) :
    (∃ rest, cs.dropWhile (· ≠ d) = d :: rest ∧ (cs ++ t).dropWhile (· ≠ d) = d :: (rest ++ t) ∧
      (cs ++ t).takeWhile (· ≠ d) = cs.takeWhile (· ≠ d)) ∨
      (cs.dropWhile (· ≠ d) = [] ∧ ')' ∈ (cs ++ t).takeWhile (· ≠ d)) := by
  induction cs with
  | nil =>
    obtain ⟨others, rfl⟩ := border.eq_cons
    right
    simp [apart.symm]
  | cons c cs ih =>
    by_cases same : c = d
    · left
      simp [same]
    · obtain found | ⟨drop, mem⟩ := ih
      · left
        simpa [same] using found
      · right
        simp_all

/-! ### Escapes -/

instance (n : Nat) : Local (charOf n) := by unfold charOf; infer_instance

instance (count : Nat) : Local (hexDigits count) := by
  induction count with
  | zero => exact inferInstanceAs (Local (pure _))
  | succ count ih => unfold hexDigits; infer_instance

instance : Local hexLiteral := by unfold hexLiteral; infer_instance
instance : Local property := by unfold property; infer_instance
instance : Local namedBoundary := by unfold namedBoundary; infer_instance

/-- A parenthesis is no part of a name. What opens one behind a comment is in another line. -/
theorem opensName_append {t : List Char} (border : Border t) (ignoreBlanks : Bool)
    (cs : List Char) :
    opensName ignoreBlanks (cs ++ t) = opensName ignoreBlanks cs ∨
      ('\n' ∈ t ∧ opensName ignoreBlanks cs = false ∧
        ∃ rest, cs = '\x7b' :: rest ∧ ignoreBlanks ∧
          (dropBlanks false (rest ++ t)).length < t.length) := by
  have head (cs : List Char) : (cs ++ t).head?.any isBoundaryChar =
      cs.head?.any isBoundaryChar := by
    cases cs with
    | nil => rw [List.nil_append, border]; rfl
    | cons => rfl
  rcases cs with _ | ⟨c, rest⟩
  · obtain ⟨others, rfl⟩ := border.eq_cons
    exact .inl rfl
  · by_cases brace : c = '\x7b'
    · subst brace
      cases ignoreBlanks with
      | false => exact .inl (head rest)
      | true =>
        obtain same | ⟨none, short, -, line⟩ := dropBlanks_append border false rest
        · left
          simpa [opensName, same] using head _
        · by_cases newline : '\n' ∈ t
          · exact .inr ⟨newline, by simp [opensName, none], rest, rfl, rfl, short⟩
          · exact .inl (by simp [opensName, none, line newline])
    · left
      simp [opensName, brace]

instance : Local wordBoundary where
  before {t} border s := by
    have run (s : ParserState) : wordBoundary.run s =
        if opensName s.ignoreBlanks s.rest then namedBoundary.run s
        else some (.wordBoundary, s) := by
      simp only [wordBoundary, get_bind_run]
      split <;> rfl
    obtain same | ⟨newline, closed, rest, left, ignored, short⟩ :=
      opensName_append border s.ignoreBlanks s.rest
    · have run' : wordBoundary.run (s.before t) = if opensName s.ignoreBlanks s.rest
          then namedBoundary.run (s.before t) else some (.wordBoundary, s.before t) := by
        rw [← same]
        exact run _
      cases opens : opensName s.ignoreBlanks s.rest with
      | true =>
        have named : LocalAt t s namedBoundary namedBoundary := Local.before border s
        refine named.congr ?_ ?_ fun _ => rfl
        · rw [run, opens]; rfl
        · rw [run', opens]; rfl
      | false =>
        refine LocalAt.of_map ?_ fun _ => rfl
        rw [run s, run', opens]
        rfl
    · refine { truncate := ?_, extend := fun line => absurd newline line, atEnd := fun _ => rfl }
      intro a s' read long
      rw [run] at read
      split at read
      · -- The name is beyond the parenthesis.
        obtain ⟨_, s₀, passed, read⟩ := bind_run_eq_some.1 read
        have := Shrinks.length_le read
        have after : s₀.rest = dropBlanks false (rest ++ t) := by
          obtain ⟨_, _, _, _⟩ := s
          cases left
          cases ignored
          cases passed
          rfl
        rw [after] at this
        omega
      · cases read
        exact ⟨s, by rw [run, closed]; rfl, rfl⟩

instance : Local escape := by unfold escape; infer_instance

/-! ### Bracketed classes -/

instance : Local classItem := by unfold classItem; infer_instance
/-- The parenthesis is looked at where nothing else is left. -/
theorem pastBlanks_append {t : List Char} (border : Border t) (ignoreBlanks : Bool)
    (cs : List Char) :
    pastBlanks ignoreBlanks (cs ++ t) = (pastBlanks ignoreBlanks cs).or (some ')') := by
  have head (cs : List Char) : (cs ++ t).head? = cs.head?.or (some ')') := by
    rw [List.head?_append, border]
  unfold pastBlanks
  split_ifs
  · exact head cs
  · simp only [dropWhile_isBlank_append border]
    obtain ⟨others, rfl⟩ := border.eq_cons
    cases cs.dropWhile Chars.isBlank with
    | nil => rfl
    | cons c rest =>
      by_cases mark : c = '#'
      · subst mark
        simp [dropWhile_isBlank_append border]
      · simp [mark]

instance : NearlyLocal isRange := .of_ne_nil fun {t} border s more => by
  obtain ⟨rest, ignoreBlanks, names, captures⟩ := s
  cases rest with
  | nil => exact absurd rfl more
  | cons c rest =>
    have run (cs : List Char) : isRange.run ⟨c :: cs, ignoreBlanks, names, captures⟩ =
        some (c = '-' && pastBlanks ignoreBlanks cs ≠ some ']' &&
          pastBlanks ignoreBlanks cs ≠ some '-', ⟨c :: cs, ignoreBlanks, names, captures⟩) := rfl
    change isRange.run ⟨c :: (rest ++ t), ignoreBlanks, names, captures⟩ = _
    rw [run, run, pastBlanks_append border]
    cases pastBlanks ignoreBlanks rest <;> rfl

instance : NearlyLocal classRange := by unfold classRange; infer_instance
instance : NearlyLocal negation := by unfold negation; infer_instance
instance : NearlyLocal openClass := by unfold openClass; infer_instance
theorem asciiClass?_apart {name : String} {c : AsciiClass} (found : asciiClass? name = some c) :
    ')' ∉ name.toList := by
  unfold asciiClass? at found
  split at found <;> simp at found ⊢

theorem className?_continues (negated : Bool) : Continues (className? negated) := by
  intro t border cs
  unfold className?
  obtain ⟨rest, drop, drop', take⟩ | ⟨drop, mem⟩ := upTo_append border (d := ':') (by simp) cs
  · simp only [take, drop, drop']
    obtain ⟨others, rfl⟩ := border.eq_cons
    rcases rest with _ | ⟨c, rest⟩
    · cases asciiClass? (String.ofList (cs.takeWhile (· ≠ ':'))) <;> rfl
    · by_cases closing : c = ']'
      · subst closing
        cases asciiClass? (String.ofList (cs.takeWhile (· ≠ ':'))) <;> rfl
      · simp [closing]
  · have none : asciiClass? (String.ofList ((cs ++ t).takeWhile (· ≠ ':'))) = none := by
      cases found : asciiClass? (String.ofList ((cs ++ t).takeWhile (· ≠ ':'))) with
      | none => rfl
      | some c => exact absurd (by simpa using mem) (asciiClass?_apart found)
    simp only [none, drop]
    cases asciiClass? (String.ofList (cs.takeWhile (· ≠ ':'))) <;> rfl

theorem namedClass?_continues : Continues namedClass? := by
  intro t border cs
  rcases cs with _ | ⟨c, _ | ⟨d, rest⟩⟩
  · obtain ⟨others, rfl⟩ := border.eq_cons
    rfl
  · obtain ⟨others, rfl⟩ := border.eq_cons
    unfold namedClass?
    split <;> simp_all
  · by_cases opening : c = '[' ∧ d = ':'
    · obtain ⟨rfl, rfl⟩ := opening
      rcases rest with _ | ⟨e, rest⟩
      · have same := className?_continues false border []
        obtain ⟨others, rfl⟩ := border.eq_cons
        exact same
      · by_cases negated : e = '^'
        · subst negated
          exact className?_continues true border rest
        · have same := className?_continues false border (e :: rest)
          simpa [namedClass?, negated] using same
    · have none (cs : List Char) : namedClass? (c :: d :: cs) = none := by
        unfold namedClass?
        split <;> simp_all
      rw [List.cons_append, List.cons_append, none, none]
      rfl

theorem setOperator?_continues : Continues setOperator? := by
  intro t border cs
  obtain ⟨others, rfl⟩ := border.eq_cons
  rcases cs with _ | ⟨c, _ | ⟨d, rest⟩⟩
  · rfl
  · unfold setOperator?
    split <;> simp_all
  · unfold setOperator?
    split <;> simp_all

instance : Local (takeIf namedClass?) := namedClass?_continues.local
instance : Local (takeIf setOperator?) := setOperator?_continues.local

section Classes

variable {t : List Char} {s : ParserState} {inner inner' : List ClassExpr → Parser ClassExpr}
  [∀ members, Shrinks (inner members)] [∀ members, Shrinks (inner' members)]
  {follow follow' : Pending → List ClassExpr → Parser ClassExpr}
  [∀ pending members, Strict (follow pending members)]
  [∀ pending members, Strict (follow' pending members)]

theorem innerClass_localAt (outside : Outside t)
    (same : ∀ s₁, s₁.rest.length < s.rest.length → ∀ members,
      LocalAt t s₁ (inner members) (inner' members)) :
    NearlyLocalAt t s (innerClass inner) (innerClass inner') := by
  refine NearlyLocalAt.bind (NearlyLocal.localAt outside s) fun opening s₁ opened => ?_
  refine NearlyLocalAt.bind (same s₁ (Strict.shorter opened) _).nearly fun e s₂ _ => ?_
  exact NearlyLocal.localAt outside s₂

theorem classMember_localAt (outside : Outside t)
    (same : ∀ s₁, s₁.rest.length < s.rest.length → ∀ members,
      LocalAt t s₁ (inner members) (inner' members)) :
    NearlyLocalAt t s (classMember inner) (classMember inner') := by
  refine NearlyLocalAt.bind (NearlyLocal.localAt outside s) fun c s₁ next => ?_
  have := Shrinks.length_le next
  split
  · exact NearlyLocal.localAt outside s₁
  · refine NearlyLocalAt.bind (NearlyLocal.localAt outside s₁) fun named s₂ taken => ?_
    have := Shrinks.length_le taken
    cases named with
    | some e => exact NearlyLocal.localAt (P := pure e) outside s₂
    | none => exact innerClass_localAt outside fun s₃ _ => same s₃ (by omega)

theorem classStep_localAt (outside : Outside t)
    (same : ∀ s₁, s₁.rest.length < s.rest.length → ∀ pending members,
      LocalAt t s₁ (follow pending members) (follow' pending members))
    (pending : Pending) (members : List ClassExpr) :
    LocalAt t s (classStep follow pending members) (classStep follow' pending members) := by
  refine NearlyLocalAt.bind_strict (NearlyLocal.localAt outside s) fun c s₁ next => ?_
  have := Shrinks.length_le next
  split
  · exact Local.localAt outside s₁
  · refine LocalAt.bind (Local.localAt outside s₁) fun operator s₂ taken => ?_
    cases operator with
    | some operator =>
      have := setOperator?_takes.shorter taken
      exact same s₂ (by omega) _ _
    | none =>
      have := Shrinks.length_le taken
      have member := classMember_localAt (s := s₂) outside fun s₃ _ => same s₃ (by omega) none
      refine member.bind_strict fun e s₃ read => same s₃ ?_ _ _
      have := Strict.shorter read
      omega

end Classes

theorem classMembers_localAt {t : List Char} (outside : Outside t) {k k' : Nat} {s : ParserState}
    (enough : s.rest.length < k) (enough' : s.rest.length < k') (pending : Pending)
    (members : List ClassExpr) :
    LocalAt t s (classMembers k pending members) (classMembers k' pending members) := by
  induction k generalizing s k' pending members with
  | zero => omega
  | succ k ih =>
    obtain _ | k' := k'
    · omega
    refine LocalAt.bind (Local.localAt outside s) fun _ s₁ passed => ?_
    have := Shrinks.length_le passed
    exact classStep_localAt outside (fun s₂ _ => ih (by omega) (by omega)) _ _

instance (members : List ClassExpr) : Local (classBody members) where
  before {t} border s :=
    have shorter := s.length_lt_before t
    have same := classMembers_localAt (.inr border) (Nat.lt_succ_self _) shorter none members
    same.congr rfl rfl fun _ => rfl

instance : Local bracketedClass := by unfold bracketedClass; infer_instance

/-! ### Groups and repetitions -/

/-- Flags are read alike while there is text. The two readers differ in their fuel. -/
theorem flagItems_localAt {t : List Char} (outside : Outside t) {k k' : Nat} {s : ParserState}
    (enough : s.rest.length < k) (enough' : s.rest.length < k') (negated dangling : Bool)
    (seen : Flags) :
    NearlyLocalAt t s (flagItems negated dangling seen k) (flagItems negated dangling seen k') := by
  induction k generalizing s k' negated dangling seen with
  | zero => omega
  | succ k ih =>
    obtain _ | k' := k'
    · omega
    refine NearlyLocalAt.bind (NearlyLocal.localAt outside s) fun c s₁ next => ?_
    split
    · exact NearlyLocal.localAt outside s₁
    · refine NearlyLocalAt.bind (NearlyLocal.localAt outside s₁) fun _ s₂ taken => ?_
      have shorter := Strict.shorter taken
      have := Shrinks.length_le next
      split
      · refine NearlyLocalAt.bind (NearlyLocal.localAt outside s₂) fun _ s₃ guarded => ?_
        have := Shrinks.length_le guarded
        exact ih (by omega) (by omega) _ _ _
      · refine NearlyLocalAt.bind (NearlyLocal.localAt outside s₂) fun flag s₃ found => ?_
        refine NearlyLocalAt.bind (NearlyLocal.localAt outside s₃) fun _ s₄ guarded => ?_
        have := Shrinks.length_le found
        have := Shrinks.length_le guarded
        exact ih (by omega) (by omega) _ _ _

instance : NearlyLocal groupFlags where
  before {t} border s :=
    have shorter := s.length_lt_before t
    have same := flagItems_localAt (.inr border) (Nat.lt_succ_self _) shorter false false []
    { truncate := same.truncate, extend := same.extend, atEnd := fun _ => rfl }

theorem groupName?_continues : Continues groupName? := by
  intro t border cs
  unfold groupName?
  obtain ⟨rest, drop, drop', take⟩ | ⟨drop, mem⟩ := upTo_append border (d := '>') (by simp) cs
  · simp only [take, drop, drop']
    cases cs.takeWhile (· ≠ '>') with
    | nil => rfl
    | cons first others =>
      dsimp only
      split <;> rfl
  · have other (b : Bool) : isNameChar b ')' = false := by cases b <;> rfl
    simp only [drop]
    cases take : (cs ++ t).takeWhile (· ≠ '>') with
    | nil => cases cs.takeWhile (· ≠ '>') <;> rfl
    | cons first others =>
      have invalid : ¬(isNameChar true first && others.all (isNameChar false)) := by
        intro valid
        rw [Bool.and_eq_true, List.all_eq_true] at valid
        rw [take, List.mem_cons] at mem
        obtain same | mem := mem
        · rw [← same, other] at valid
          cases valid.1
        · cases (other false).symm.trans (valid.2 _ mem)
      cases (cs ++ t).dropWhile (· ≠ '>') with
      | nil => cases cs.takeWhile (· ≠ '>') <;> rfl
      | cons =>
        simp only [if_neg invalid]
        cases cs.takeWhile (· ≠ '>') <;> rfl

instance : Local (takeIf groupName?) := groupName?_continues.local
instance (name : String) : Local (claim name) := .of_map fun {t} _ s => by
  have run (s : ParserState) : (claim name).run s =
      if s.names.contains name then none
      else some ((), { s with names := name :: s.names }) := by
    simp only [claim, get_bind_run]
    cases s.names.contains name <;> rfl
  rw [run, run]
  change (if s.names.contains name then none else _) = _
  split <;> rfl
instance : Local groupName := by unfold groupName; infer_instance
instance : Local captureStart := .of_map fun _ _ => rfl
instance : Local namePrefix := by unfold namePrefix; infer_instance
instance : Local groupStart := by unfold groupStart; infer_instance
instance : Local passSpaces := .of_map fun {t} border s => by
  have same := dropWhile_isBlank_append border s.rest
  exact congrArg (fun rest => some ((), { s with rest })) same

instance : NearlyLocal decimal := by unfold decimal; infer_instance
instance (least : Nat) : NearlyLocal (greatest least) := by unfold greatest; infer_instance
instance : Local preference := by unfold preference; infer_instance
instance : Local counts := by unfold counts; infer_instance

instance (least : Nat) (most : Option Nat) : Local (signCounts least most) := by
  unfold signCounts
  infer_instance

/-! ### Patterns -/

instance : Local primitive := by unfold primitive; infer_instance
instance (flags : Flags) : Local (setBlanks flags) := .of_map fun _ _ => rfl
instance : Local ignoresBlanks := .of_map fun _ _ => rfl

section Recursion

variable {t : List Char} {s : ParserState} {inner inner' : Parser Ast} [Shrinks inner]
  [Shrinks inner']

theorem enclosed_localAt (outside : Outside t) (flags : Flags)
    (same : ∀ s₁, s₁.rest.length ≤ s.rest.length → LocalAt t s₁ inner inner') :
    LocalAt t s (enclosed flags inner) (enclosed flags inner') := by
  have shrinks (outer : Bool) : Shrinks (modify fun s => { s with ignoreBlanks := outer }) :=
    Shrinks.modify fun _ => List.suffix_rfl
  have restored (outer : Bool) : Local (modify fun s => { s with ignoreBlanks := outer }) :=
    .of_map fun _ _ => rfl
  refine LocalAt.bind (Local.localAt outside s) fun outer s₁ asked => ?_
  refine LocalAt.bind (Local.localAt outside s₁) fun _ s₂ changed => ?_
  have := Shrinks.length_le asked
  have := Shrinks.length_le changed
  refine LocalAt.bind (same s₂ (by omega)) fun ast s₃ _ => ?_
  exact Local.localAt outside s₃

theorem group_localAt (outside : Outside t)
    (same : ∀ s₁, s₁.rest.length ≤ s.rest.length → LocalAt t s₁ inner inner') (parts : List Ast)
    (start : GroupStart) : LocalAt t s (group inner parts start) (group inner' parts start) := by
  cases start with
  | flags flags => exact Local.localAt (P := setBlanks flags >>= _) outside s
  | group flags =>
    exact (enclosed_localAt outside flags same).bind fun ast s₁ _ => Local.localAt outside s₁
  | capture index =>
    exact (enclosed_localAt outside [] same).bind fun ast s₁ _ => Local.localAt outside s₁

theorem part_localAt (outside : Outside t)
    (same : ∀ s₁, s₁.rest.length < s.rest.length → LocalAt t s₁ inner inner') (parts : List Ast)
    (c : Char) : LocalAt t s (part inner parts c) (part inner' parts c) := by
  unfold part
  split
  · refine LocalAt.bind (Local.localAt outside s) fun start s₁ opened => ?_
    have := Strict.shorter opened
    exact group_localAt outside (fun s₂ _ => same s₂ (by omega)) parts start
  all_goals exact Local.localAt outside s

end Recursion

instance : Local isClosed := .of_map fun {t} border s => by
  have same : (s.rest ++ t).head?.all (· = ')') = s.rest.head?.all (· = ')') := by
    cases s.rest with
    | nil => rw [List.nil_append, border]; rfl
    | cons => rfl
  exact congrArg (some <| Prod.mk · (s.before t)) same

theorem alternatives_localAt {t : List Char} (outside : Outside t) {k k' : Nat} {s : ParserState}
    (enough : s.rest.length < k) (enough' : s.rest.length < k') (branches parts : List Ast) :
    LocalAt t s (alternatives k branches parts) (alternatives k' branches parts) := by
  induction k generalizing s k' branches parts with
  | zero => omega
  | succ k ih =>
    obtain _ | k' := k'
    · omega
    refine LocalAt.bind (Local.localAt outside s) fun _ s₁ passed => ?_
    refine LocalAt.bind (Local.localAt outside s₁) fun closed s₂ asked => ?_
    have := Shrinks.length_le passed
    have := Shrinks.length_le asked
    split
    · exact Local.localAt outside s₂
    · refine LocalAt.bind (Local.localAt outside s₂) fun taken s₃ bumped => ?_
      cases taken with
      | true =>
        have := bumpIf_shorter (by simp) bumped
        exact ih (by omega) (by omega) _ _
      | false =>
        have := Shrinks.length_le bumped
        have inner (s₄ : ParserState) (shorter : s₄.rest.length < s₃.rest.length) :
            LocalAt t s₄ (alternatives k [] []) (alternatives k' [] []) :=
          ih (by omega) (by omega) _ _
        refine NearlyLocalAt.bind_strict (NearlyLocal.localAt outside s₃) fun c s₄ next => ?_
        have := Shrinks.length_le next
        refine LocalAt.bind (part_localAt outside (fun s₅ _ => inner s₅ (by omega)) parts c)
          fun parts s₅ read => ?_
        have := Strict.shorter read
        exact ih (by omega) (by omega) _ _

end Companion.Pattern.Parser

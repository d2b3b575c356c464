import Companion.Pattern.Parser
import Mathlib.Data.List.Infix
import Mathlib.Data.Option.Basic

/-! Reading a pattern goes forward: what is left afterwards is an end of what was left before, and
whatever reads a construct takes at least one character. Both facts compose along the steps of a
reader, so that most readers have them by the shape of their definition. -/

set_option autoImplicit false
set_option synthInstance.maxSize 4000

namespace Companion.Pattern.Parser

variable {α β : Type}

/-- What is left after reading is an end of what was left before. -/
class Shrinks (P : Parser α) : Prop where
  suffix : ∀ {s s₁ : ParserState} {a : α}, P.run s = some (a, s₁) → s₁.rest <:+ s.rest

/-- Reading takes at least one character. -/
class Strict (P : Parser α) : Prop extends Shrinks P where
  shorter : ∀ {s s₁ : ParserState} {a : α}, P.run s = some (a, s₁) → s₁.rest.length < s.rest.length

section Steps

variable {P P' : Parser α} {Q : α → Parser β} {s s₁ : ParserState}

theorem bind_run_eq_some {b : β} :
    (P >>= Q).run s = some (b, s₁) ↔
      ∃ a s₀, P.run s = some (a, s₀) ∧ (Q a).run s₀ = some (b, s₁) := by
  simp [StateT.run_bind, Option.bind_eq_some_iff]

theorem get_bind_run (Q : ParserState → Parser β) : (get >>= Q).run s = (Q s).run s := rfl

theorem Shrinks.length_le [Shrinks P] {a : α} (read : P.run s = some (a, s₁)) :
    s₁.rest.length ≤ s.rest.length := (Shrinks.suffix read).length_le

theorem Shrinks.rest_eq_nil [Shrinks P] {a : α} (read : P.run s = some (a, s₁))
    (atEnd : s.rest = []) : s₁.rest = [] := by
  have shrunk := Shrinks.suffix read
  rwa [atEnd, List.suffix_nil] at shrunk

/-- Nothing that takes a character succeeds at the end of the text. -/
theorem Strict.rest_ne_nil [Strict P] {a : α} (read : P.run s = some (a, s₁)) : s.rest ≠ [] := by
  intro atEnd
  have shorter := Strict.shorter read
  simp [atEnd] at shorter

instance (a : α) : Shrinks (pure a : Parser α) where
  suffix read := by
    cases read
    exact List.suffix_rfl

instance : Strict (failure : Parser α) where
  suffix read := by cases read
  shorter read := by cases read

instance : Shrinks (get : Parser ParserState) where
  suffix read := by
    cases read
    exact List.suffix_rfl

instance (o : Option α) : Shrinks (liftM o : Parser α) where
  suffix read := by
    cases o with
    | none => cases read
    | some a =>
      cases read
      exact List.suffix_rfl

instance Shrinks.bind [Shrinks P] [∀ a, Shrinks (Q a)] : Shrinks (P >>= Q) where
  suffix read := by
    obtain ⟨a, s₀, first, next⟩ := bind_run_eq_some.1 read
    exact (Shrinks.suffix next).trans (Shrinks.suffix first)

instance Strict.bind_left [Strict P] [∀ a, Shrinks (Q a)] : Strict (P >>= Q) where
  shorter read := by
    obtain ⟨a, s₀, first, next⟩ := bind_run_eq_some.1 read
    exact (Shrinks.length_le next).trans_lt (Strict.shorter first)

instance Strict.bind_right [Shrinks P] [∀ a, Strict (Q a)] : Strict (P >>= Q) where
  shorter read := by
    obtain ⟨a, s₀, first, next⟩ := bind_run_eq_some.1 read
    exact (Strict.shorter next).trans_le (Shrinks.length_le first)

instance {c : Prop} [Decidable c] [Shrinks P] [Shrinks P'] : Shrinks (if c then P else P') := by
  split <;> infer_instance

instance {c : Prop} [Decidable c] [Strict P] [Strict P'] : Strict (if c then P else P') := by
  split <;> infer_instance

instance {c : Prop} [Decidable c] : Shrinks (guard c : Parser Unit) :=
  inferInstanceAs (Shrinks (if c then pure () else failure))

theorem Shrinks.modify {f : ParserState → ParserState} (back : ∀ s, (f s).rest <:+ s.rest) :
    Shrinks (modify f : Parser Unit) where
  suffix read := by
    cases read
    exact back _

end Steps

/-! ### Single characters -/

theorem dropBlanks_suffix (inComment : Bool) (cs : List Char) : dropBlanks inComment cs <:+ cs := by
  induction cs generalizing inComment with
  | nil => exact List.suffix_rfl
  | cons c cs ih =>
    simp only [dropBlanks]
    split_ifs
    · exact (ih _).trans (List.suffix_cons c cs)
    · exact (ih _).trans (List.suffix_cons c cs)
    · exact (ih _).trans (List.suffix_cons c cs)
    · exact List.suffix_rfl

instance : Shrinks blanks := Shrinks.modify fun s => by
  split
  · exact dropBlanks_suffix false s.rest
  · exact List.suffix_rfl

instance : Shrinks peek := inferInstanceAs (Shrinks (get >>= _))
instance (texts : List String) : Shrinks (isNext texts) := inferInstanceAs (Shrinks (get >>= _))

theorem bump_run (s : ParserState) :
    bump.run s = match s.rest with
      | _ :: rest => some ((), { s with rest })
      | [] => none := by
  obtain ⟨rest, _, _, _⟩ := s
  cases rest <;> rfl

theorem char_run (s : ParserState) : char.run s = s.rest.head?.map (·, s) := by
  obtain ⟨rest, _, _, _⟩ := s
  cases rest <;> rfl

theorem takeIf_run (find : List Char → Option (α × List Char)) (s : ParserState) :
    (takeIf find).run s = match find s.rest with
      | some (a, rest) => some (some a, { s with rest })
      | none => some (none, s) := by
  simp only [takeIf, get_bind_run]
  cases find s.rest <;> rfl

instance : Strict bump where
  suffix {s _ _} read := by
    rw [bump_run] at read
    split at read
    next rest => cases read; simp [rest]
    next => cases read
  shorter {s _ _} read := by
    rw [bump_run] at read
    split at read
    next rest => cases read; simp [rest]
    next => cases read

instance : Strict bumpAndBlanks := inferInstanceAs (Strict (bump >>= _))

instance : Shrinks char where
  suffix read := by
    obtain ⟨_, _, same⟩ := Option.map_eq_some_iff.1 ((char_run _).symm.trans read)
    cases same
    exact List.suffix_rfl

theorem Shrinks.takeIf {find : List Char → Option (α × List Char)}
    (back : ∀ {cs a rest}, find cs = some (a, rest) → rest <:+ cs) : Shrinks (takeIf find) where
  suffix read := by
    rw [takeIf_run] at read
    split at read
    next found =>
      cases read
      exact back found
    next =>
      cases read
      exact List.suffix_rfl

/-- What is found takes at least one character. -/
def Takes (find : List Char → Option (α × List Char)) : Prop :=
  ∀ {cs a rest}, find cs = some (a, rest) → ∃ c, c :: rest <:+ cs

section Takes

variable {find : List Char → Option (α × List Char)}

theorem Takes.shrinks (takes : Takes find) : Shrinks (Parser.takeIf find) := by
  apply Shrinks.takeIf
  intro cs a rest found
  obtain ⟨c, found⟩ := takes found
  exact (List.suffix_cons c rest).trans found

theorem Takes.shorter (takes : Takes find) {s s₁ : ParserState} {a : α}
    (read : (Parser.takeIf find).run s = some (some a, s₁)) :
    s₁.rest.length < s.rest.length := by
  rw [takeIf_run] at read
  split at read
  next found =>
    cases read
    obtain ⟨c, found⟩ := takes found
    exact found.length_le
  next => cases read

/-- A character is taken if something is found, and otherwise by what follows. -/
theorem Takes.strict_bind (takes : Takes find) {Q : Option α → Parser β}
    (found : ∀ a, Shrinks (Q (some a))) (other : Strict (Q none)) :
    Strict (Parser.takeIf find >>= Q) := by
  have := takes.shrinks
  have next (o : Option α) : Shrinks (Q o) := by cases o <;> infer_instance
  refine { shorter := fun {s s₁ b} read => ?_ }
  obtain ⟨o, s₀, first, read⟩ := bind_run_eq_some.1 read
  cases o with
  | some a => exact (Shrinks.length_le read).trans_lt (takes.shorter first)
  | none => exact (Strict.shorter read).trans_le (Shrinks.length_le first)

end Takes

instance (text : String) : Shrinks (takeIf (strip? text)) := by
  apply Shrinks.takeIf
  intro cs _ rest found
  obtain ⟨_, found, same⟩ := Option.map_eq_some_iff.1 found
  cases same
  exact ⟨_, List.isPrefixOf?_eq_some_iff_append_eq.1 found⟩

instance (text : String) : Shrinks (bumpIf text) := by unfold bumpIf; infer_instance

theorem bumpIf_shorter {text : String} (signs : text.toList ≠ []) {s s₁ : ParserState}
    (passed : (bumpIf text).run s = some (true, s₁)) : s₁.rest.length < s.rest.length := by
  obtain ⟨o, s₀, taken, same⟩ := bind_run_eq_some.1 passed
  rw [takeIf_run] at taken
  split at taken
  next found =>
    cases taken
    cases same
    obtain ⟨_, found, same⟩ := Option.map_eq_some_iff.1 found
    cases same
    have left := congrArg List.length (List.isPrefixOf?_eq_some_iff_append_eq.1 found)
    have := List.length_pos_iff.2 signs
    rw [List.length_append] at left
    dsimp only
    omega
  next =>
    cases taken
    cases same

instance (p : Char → Bool) (fuel : Nat) : Shrinks (takeChars p fuel) := by
  induction fuel with
  | zero => exact inferInstanceAs (Shrinks (pure _))
  | succ fuel ih => unfold takeChars; infer_instance

instance (p : Char → Bool) : Shrinks (takeAll p) := by unfold takeAll; infer_instance

/-! ### Escapes -/

instance (n : Nat) : Shrinks (charOf n) := by unfold charOf; infer_instance

instance (count : Nat) : Shrinks (hexDigits count) := by
  induction count with
  | zero => exact inferInstanceAs (Shrinks (pure _))
  | succ count ih => unfold hexDigits; infer_instance

instance (count : Nat) : Strict (hexDigits (count + 1)) := by unfold hexDigits; infer_instance
instance : Strict hexLiteral := by unfold hexLiteral; infer_instance
instance : Strict property := by unfold property; infer_instance
instance : Strict namedBoundary := by unfold namedBoundary; infer_instance
instance : Shrinks wordBoundary := by unfold wordBoundary; infer_instance
instance : Strict escape := by unfold escape; infer_instance

/-! ### Bracketed classes -/

theorem className?_takes (negated : Bool) : Takes (className? negated) := by
  intro cs _ rest found
  unfold className? at found
  split at found
  next after =>
    cases found
    have left : ':' :: ']' :: rest <:+ cs := after ▸ List.dropWhile_suffix _
    exact ⟨']', (List.suffix_cons ':' _).trans left⟩
  next => cases found

theorem namedClass?_takes : Takes namedClass? := by
  intro cs _ rest found
  unfold namedClass? at found
  split at found
  next cs =>
    obtain ⟨c, found⟩ := className?_takes true found
    exact ⟨c, found.trans ⟨['[', ':', '^'], rfl⟩⟩
  next cs _ =>
    obtain ⟨c, found⟩ := className?_takes false found
    exact ⟨c, found.trans ⟨['[', ':'], rfl⟩⟩
  next => cases found

theorem setOperator?_takes : Takes setOperator? := by
  intro cs _ rest found
  unfold setOperator? at found
  split at found
  next => cases found; exact ⟨'&', List.suffix_cons '&' _⟩
  next => cases found; exact ⟨'-', List.suffix_cons '-' _⟩
  next => cases found; exact ⟨'~', List.suffix_cons '~' _⟩
  next => cases found

instance : Shrinks (takeIf namedClass?) := namedClass?_takes.shrinks
instance : Shrinks (takeIf setOperator?) := setOperator?_takes.shrinks
instance : Strict classItem := by unfold classItem; infer_instance
instance : Shrinks isRange := by unfold isRange; infer_instance
instance : Strict classRange := by unfold classRange; infer_instance
instance : Shrinks negation := by unfold negation; infer_instance
instance : Strict openClass := by unfold openClass; infer_instance

instance (o : Option α) (P : Parser α) [Shrinks P] : Shrinks (o.getDM P) := by
  cases o with
  | none => exact inferInstanceAs (Shrinks P)
  | some a => exact inferInstanceAs (Shrinks (pure a))

section Classes

variable (inner : List ClassExpr → Parser ClassExpr) [∀ members, Shrinks (inner members)]
  (follow : Pending → List ClassExpr → Parser ClassExpr)
  [∀ pending members, Strict (follow pending members)] (pending : Pending)
  (members : List ClassExpr)

instance : Strict (innerClass inner) := by unfold innerClass; infer_instance

instance : Strict (classMember inner) := by
  refine @Strict.bind_right _ _ _ _ inferInstance fun c => ?_
  split_ifs
  · infer_instance
  · apply namedClass?_takes.strict_bind
    · exact fun e => inferInstanceAs (Shrinks (pure e))
    · exact inferInstanceAs (Strict (innerClass inner))

instance (operator : Option SetOperator) : Strict (classRest follow pending members operator) := by
  unfold classRest
  split <;> infer_instance

instance : Strict (classStep follow pending members) := by unfold classStep; infer_instance

end Classes

instance (fuel : Nat) (pending : Pending) (members : List ClassExpr) :
    Strict (classMembers fuel pending members) := by
  induction fuel generalizing pending members with
  | zero => exact inferInstanceAs (Strict failure)
  | succ fuel ih => unfold classMembers; infer_instance

instance (members : List ClassExpr) : Strict (classBody members) := by
  unfold classBody
  infer_instance

instance : Strict bracketedClass := by unfold bracketedClass; infer_instance

/-! ### Groups and repetitions -/

instance (fuel : Nat) (seen : Flags) (negated dangling : Bool) :
    Shrinks (flagItems negated dangling seen fuel) := by
  induction fuel generalizing seen negated dangling with
  | zero => exact inferInstanceAs (Shrinks failure)
  | succ n ih => unfold flagItems; infer_instance

instance : Shrinks groupFlags := by unfold groupFlags; infer_instance

instance (name : String) : Shrinks (claim name) := by
  have claimed : Shrinks (modify fun s => { s with names := name :: s.names }) :=
    Shrinks.modify fun _ => List.suffix_rfl
  unfold claim
  infer_instance

theorem groupName?_takes : Takes groupName? := by
  intro cs _ rest found
  unfold groupName? at found
  split at found
  next c _ _ after =>
    split at found
    next =>
      cases found
      exact ⟨c, after ▸ List.dropWhile_suffix _⟩
    next => cases found
  next => cases found

instance : Shrinks (takeIf groupName?) := groupName?_takes.shrinks

instance : Shrinks groupName := by unfold groupName; infer_instance

instance : Shrinks captureStart where
  suffix read := by
    cases read
    exact List.suffix_rfl

instance : Shrinks namePrefix := by unfold namePrefix; infer_instance
instance : Strict groupStart := by unfold groupStart; infer_instance
instance : Shrinks passSpaces := Shrinks.modify fun _ => List.dropWhile_suffix _
instance : Shrinks decimal := by unfold decimal; infer_instance
instance (least : Nat) : Shrinks (greatest least) := by unfold greatest; infer_instance
instance : Shrinks preference := by unfold preference; infer_instance
instance : Strict counts := by unfold counts; infer_instance

instance (least : Nat) (most : Option Nat) : Strict (signCounts least most) := by
  unfold signCounts
  infer_instance

/-! ### Patterns -/

instance : Strict primitive := by unfold primitive; infer_instance
instance (flags : Flags) : Shrinks (setBlanks flags) := Shrinks.modify fun _ => List.suffix_rfl
instance : Shrinks ignoresBlanks := inferInstanceAs (Shrinks (get >>= _))

section Recursion

variable (inner : Parser Ast) [Shrinks inner]

instance (flags : Flags) : Strict (enclosed flags inner) := by
  have restored (outer : Bool) : Shrinks (modify fun s => { s with ignoreBlanks := outer }) :=
    Shrinks.modify fun _ => List.suffix_rfl
  unfold enclosed
  infer_instance

instance (parts : List Ast) (start : GroupStart) : Shrinks (group inner parts start) := by
  unfold group
  split <;> infer_instance

instance (parts : List Ast) (c : Char) : Strict (part inner parts c) := by
  unfold part
  split <;> infer_instance

end Recursion

instance : Shrinks isClosed := inferInstanceAs (Shrinks (peek >>= _))

instance (fuel : Nat) (branches parts : List Ast) : Shrinks (alternatives fuel branches parts) := by
  induction fuel generalizing branches parts with
  | zero => exact inferInstanceAs (Shrinks failure)
  | succ fuel ih => unfold alternatives; infer_instance

end Companion.Pattern.Parser

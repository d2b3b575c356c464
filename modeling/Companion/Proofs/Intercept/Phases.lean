import Companion.Proofs.Intercept.Weave

/-! Bodies that statements are pushed into in any order, some of which are refused.

A body remembers its latest phase alone. What that says of all that was accepted is an invariant of
every push. -/

set_option autoImplicit false

namespace Companion

theorem Phase.rank_injective {p q : Phase} (same : p.rank = q.rank) : p = q := by
  cases p <;> cases q <;> first | rfl | simp [rank] at same

/-- From the body on there are four phases. -/
theorem Phase.eq_of_body_le {p : Phase} (late : Phase.body.rank ≤ p.rank) :
    p = .body ∨ p = .store ∨ p = .postconditions ∨ p = .finish := by
  cases p <;> simp [rank] at late ⊢

/-- A statement for a phase. -/
structure Push where
  phase : Phase
  statement : String
  deriving DecidableEq, Repr

/-- A body, and the pushes that it has accepted. -/
structure Pushed where
  body : Body
  accepted : List Push
  deriving DecidableEq, Repr

/-- What may come after the pushes that were accepted: no earlier phase, neither of the two ends, and
no second body. -/
def Push.Fits (p : Push) (accepted : List Push) : Prop :=
  p.phase ≠ .start ∧ p.phase ≠ .finish ∧ (∀ q ∈ accepted, q.phase.rank ≤ p.phase.rank) ∧
    (p.phase = .body → ∀ q ∈ accepted, q.phase ≠ .body)

instance (p : Push) (accepted : List Push) : Decidable (p.Fits accepted) :=
  inferInstanceAs (Decidable (_ ∧ _ ∧ _ ∧ (_ → _)))

namespace Pushed

/-- One more push. If it is refused, all stays as it is. -/
def next (s : Pushed) (p : Push) : Pushed :=
  match s.body.push p.phase p.statement with
  | .ok b => ⟨b, s.accepted ++ [p]⟩
  | .error _ => s

def ofPushes (method : String) (pushes : List Push) : Pushed :=
  pushes.foldl next ⟨.empty method, []⟩

/-- The body itself was passed over: what comes after it was accepted without it. -/
def SkipsBody (s : Pushed) : Prop :=
  (∀ p ∈ s.accepted, p.phase ≠ .body) ∧
    ∃ p ∈ s.accepted, p.phase = .store ∨ p.phase = .postconditions

instance (s : Pushed) : Decidable s.SkipsBody := inferInstanceAs (Decidable (_ ∧ _))

variable {s : Pushed} {p : Push} {method : String}

theorem next_of_mayFollow (allowed : p.phase.mayFollow s.body.phase = true) :
    s.next p = ⟨⟨s.body.method, p.phase, s.body.statements ++ [p.statement]⟩,
      s.accepted ++ [p]⟩ := by
  rw [next, s.body.push_eq allowed]

theorem push_of_not_mayFollow (refused : p.phase.mayFollow s.body.phase = false) :
    s.body.push p.phase p.statement = .error (.phaseOrder s.body.phase p.phase) := by
  rw [Body.push, refused]
  rfl

theorem next_of_not_mayFollow (refused : p.phase.mayFollow s.body.phase = false) :
    s.next p = s := by
  rw [next, push_of_not_mayFollow refused]

/-! ### What every push preserves -/

/-- What a body tells of the pushes that it has accepted. -/
structure Recorded (method : String) (s : Pushed) : Prop where
  method_eq : s.body.method = method
  statements_eq : s.body.statements = s.accepted.map (·.statement)
  /-- The latest phase is that of the last push, and later than all before. -/
  latest : ∀ p ∈ s.accepted, p.phase.rank ≤ s.body.phase.rank
  reached : s.body.phase = .start ∨ ∃ p ∈ s.accepted, p.phase = s.body.phase
  ordered : s.accepted.Pairwise fun p q => p.phase.rank ≤ q.phase.rank
  inner : ∀ p ∈ s.accepted, p.phase ≠ .start ∧ p.phase ≠ .finish
  once : s.accepted.countP (·.phase = .body) ≤ 1

theorem recorded_empty (method : String) : Recorded method ⟨.empty method, []⟩ where
  method_eq := rfl
  statements_eq := rfl
  latest := by simp
  reached := .inl rfl
  ordered := .nil
  inner := by simp
  once := by simp

/-- The latest phase alone tells what may come next. -/
theorem Recorded.fits_iff (recorded : s.Recorded method) :
    p.Fits s.accepted ↔ p.phase.mayFollow s.body.phase = true := by
  rw [Push.Fits, Phase.mayFollow_iff]
  constructor
  · rintro ⟨noStart, noFinish, inOrder, once⟩
    refine ⟨?_, noStart, noFinish, fun body again => ?_⟩
    · obtain start | ⟨q, member, last⟩ := recorded.reached
      · rw [start]
        exact Nat.zero_le _
      · exact last ▸ inOrder q member
    · obtain start | ⟨q, member, last⟩ := recorded.reached
      · rw [start] at again
        cases again
      · exact once body q member (last.trans again)
  · rintro ⟨inOrder, noStart, noFinish, once⟩
    refine ⟨noStart, noFinish, fun q member => Nat.le_trans (recorded.latest q member) inOrder,
      fun body q member again => once body ?_⟩
    have lower := recorded.latest q member
    rw [again] at lower
    rw [body] at inOrder
    exact Phase.rank_injective (Nat.le_antisymm inOrder lower)

theorem Recorded.next (recorded : s.Recorded method) (p : Push) : (s.next p).Recorded method := by
  cases allowed : p.phase.mayFollow s.body.phase with
  | false => rwa [next_of_not_mayFollow allowed]
  | true =>
    obtain ⟨noStart, noFinish, before, fresh⟩ := recorded.fits_iff.mpr allowed
    rw [next_of_mayFollow allowed]
    constructor
    · exact recorded.method_eq
    · simp [recorded.statements_eq]
    · simpa [or_imp, forall_and] using before
    · exact .inr ⟨p, by simp, rfl⟩
    · simpa [List.pairwise_append] using ⟨recorded.ordered, before⟩
    · simpa [or_imp, forall_and] using ⟨⟨fun q member => (recorded.inner q member).1, noStart⟩,
        fun q member => (recorded.inner q member).2, noFinish⟩
    · rw [List.countP_append, List.countP_singleton]
      split
      · next body =>
        have none : s.accepted.countP (·.phase = .body) = 0 :=
          List.countP_eq_zero.mpr (by simpa using fresh (by simpa using body))
        omega
      · exact recorded.once

theorem recorded_ofPushes (method : String) (pushes : List Push) :
    (ofPushes method pushes).Recorded method := by
  unfold ofPushes
  generalize start : (⟨.empty method, []⟩ : Pushed) = s
  have recorded : s.Recorded method := start ▸ recorded_empty method
  clear start
  induction pushes generalizing s with
  | nil => exact recorded
  | cons p others ih => exact ih _ (recorded.next p)

/-! ### What is accepted -/

/-- What is refused might as well not have been pushed. -/
theorem exists_accepted (s : Pushed) (pushes : List Push) :
    ∃ taken, taken.Sublist pushes ∧ (pushes.foldl next s).accepted = s.accepted ++ taken ∧
      taken.foldl next s = pushes.foldl next s := by
  induction pushes generalizing s with
  | nil => exact ⟨[], .refl _, (List.append_nil _).symm, rfl⟩
  | cons p others ih =>
    obtain ⟨taken, sublist, accepted, same⟩ := ih (s.next p)
    cases allowed : p.phase.mayFollow s.body.phase with
    | false =>
      rw [next_of_not_mayFollow allowed] at accepted same
      rw [List.foldl_cons, next_of_not_mayFollow allowed]
      exact ⟨taken, sublist.cons p, accepted, same⟩
    | true =>
      refine ⟨p :: taken, sublist.cons_cons p, ?_, same⟩
      rw [List.foldl_cons, accepted, next_of_mayFollow allowed, List.append_assoc,
        List.singleton_append]

theorem sublist_ofPushes (method : String) (pushes : List Push) :
    (ofPushes method pushes).accepted.Sublist pushes ∧
      ofPushes method (ofPushes method pushes).accepted = ofPushes method pushes := by
  obtain ⟨taken, sublist, accepted, same⟩ := exists_accepted ⟨.empty method, []⟩ pushes
  rw [List.nil_append] at accepted
  exact ⟨accepted ▸ sublist, accepted ▸ same⟩

/-! ### Closing -/

/-- The latest phase tells whether there was a body or something that comes after bodies. -/
theorem Recorded.closes_iff (recorded : s.Recorded method) :
    Phase.body.rank ≤ s.body.phase.rank ↔
      s.accepted.countP (·.phase = .body) = 1 ∨ s.SkipsBody := by
  constructor
  · intro late
    obtain start | ⟨q, member, last⟩ := recorded.reached
    · rw [start] at late
      simp [Phase.rank] at late
    by_cases body : ∃ p ∈ s.accepted, p.phase = .body
    · have some : 0 < s.accepted.countP (·.phase = .body) :=
        List.countP_pos_iff.mpr (by simpa using body)
      exact .inl (Nat.le_antisymm recorded.once some)
    · have without : ∀ p ∈ s.accepted, p.phase ≠ .body := by simpa using body
      refine .inr ⟨without, q, member, ?_⟩
      rw [← last] at late
      obtain body | store | after | finish := Phase.eq_of_body_le late
      · exact absurd body (without q member)
      · exact .inl store
      · exact .inr after
      · exact absurd finish (recorded.inner q member).2
  · rintro (once | ⟨-, q, member, later⟩)
    · obtain ⟨q, member, body⟩ := List.countP_pos_iff.mp (once ▸ Nat.zero_lt_one)
      have body : q.phase = .body := by simpa using body
      exact body ▸ recorded.latest q member
    · refine Nat.le_trans ?_ (recorded.latest q member)
      obtain phase | phase := later <;> rw [phase] <;> decide

theorem Recorded.close_eq (recorded : s.Recorded method) (tail : String) :
    s.body.close tail =
      if s.accepted.countP (·.phase = .body) = 1 ∨ s.SkipsBody then
        .ok (s.accepted.map (·.statement) ++ [tail])
      else .error (.missingBody method) := by
  rw [Body.close, recorded.method_eq, recorded.statements_eq]
  by_cases late : Phase.body.rank ≤ s.body.phase.rank
  · rw [if_neg (Nat.not_lt.mpr late), if_pos (recorded.closes_iff.mp late)]
  · rw [if_pos (Nat.not_le.mp late), if_neg (mt recorded.closes_iff.mpr late)]

/-- Whatever is pushed, what is refused leaves no trace, and what is accepted keeps the order of the
phases. A body that was passed over is not missed; otherwise a method has its statements exactly if
one body was accepted. -/
theorem pushes_settle (method tail : String) (pushes : List Push) :
    let s := ofPushes method pushes
    (s.accepted.Sublist pushes ∧ ofPushes method s.accepted = s) ∧
      (∀ p : Push, if p.Fits s.accepted then (s.next p).accepted = s.accepted ++ [p]
        else s.body.push p.phase p.statement = .error (.phaseOrder s.body.phase p.phase) ∧
          s.next p = s) ∧
      s.accepted.Pairwise (fun p q => p.phase.rank ≤ q.phase.rank) ∧
      (∀ p ∈ s.accepted, p.phase ≠ .start ∧ p.phase ≠ .finish) ∧
      s.accepted.countP (·.phase = .body) ≤ 1 ∧
      s.body.close tail =
        if s.accepted.countP (·.phase = .body) = 1 ∨ s.SkipsBody then
          .ok (s.accepted.map (·.statement) ++ [tail])
        else .error (.missingBody method) := by
  intro s
  have recorded : s.Recorded method := recorded_ofPushes method pushes
  refine ⟨sublist_ofPushes method pushes, fun p => ?_, recorded.ordered, recorded.inner,
    recorded.once, recorded.close_eq tail⟩
  split
  · next fits => rw [next_of_mayFollow (recorded.fits_iff.mp fits)]
  · next unfit =>
    have refused := Bool.not_eq_true _ ▸ mt recorded.fits_iff.mpr unfit
    exact ⟨push_of_not_mayFollow refused, next_of_not_mayFollow refused⟩

/-- A statement that comes after bodies is enough to close a body that has none. -/
example : (ofPushes "area" [⟨.store, "keep();"⟩]).body.close resultBinding =
    .ok ["keep();", "result"] := rfl

end Pushed

end Companion

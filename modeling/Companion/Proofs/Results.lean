import Mathlib.Data.List.Forall2

/-! Actions that may fail, one after the other. -/

set_option autoImplicit false

namespace Companion

variable {α β ε : Type}

theorem bind_eq_ok {x : Except ε α} {f : α → Except ε β} {b : β} :
    (x >>= f) = .ok b ↔ ∃ a, x = .ok a ∧ f a = .ok b := by
  cases x with
  | error e => exact ⟨nofun, fun ⟨_, ok, _⟩ => nomatch ok⟩
  | ok a => exact ⟨fun ok => ⟨a, rfl, ok⟩, fun ⟨_, rfl, ok⟩ => ok⟩

theorem map_eq_ok {x : Except ε α} {f : α → β} {b : β} :
    f <$> x = .ok b ↔ ∃ a, x = .ok a ∧ f a = b := by
  cases x with
  | error e => exact ⟨nofun, fun ⟨_, ok, _⟩ => nomatch ok⟩
  | ok a => exact ⟨fun ok => ⟨a, rfl, Except.ok.inj ok⟩, fun ⟨_, rfl, same⟩ => congrArg Except.ok same⟩

variable {f : α → Except ε β} {xs : List α} {ys : List β}

theorem mapM_cons_eq_ok {x : α} :
    (x :: xs).mapM f = .ok ys ↔
      ∃ y others, f x = .ok y ∧ xs.mapM f = .ok others ∧ ys = y :: others := by
  simp only [List.mapM_cons, bind_eq_ok]
  constructor
  · rintro ⟨y, first, others, rest, same⟩
    cases same
    exact ⟨y, others, first, rest, rfl⟩
  · rintro ⟨y, others, first, rest, rfl⟩
    exact ⟨y, first, others, rest, rfl⟩

/-- Actions that succeed one by one do so together, and what each gives is what it gives alone. -/
theorem exists_mapM_of_forall₂ {γ : Type} {R : γ → β → Prop} {zs : List γ}
    (each : List.Forall₂ (fun z x => ∃ y, f x = .ok y ∧ R z y) zs xs) :
    ∃ ys, xs.mapM f = .ok ys ∧ List.Forall₂ R zs ys := by
  induction each with
  | nil => exact ⟨[], rfl, .nil⟩
  | cons step _ ih =>
    obtain ⟨y, first, related⟩ := step
    obtain ⟨ys, others, agree⟩ := ih
    exact ⟨y :: ys, mapM_cons_eq_ok.mpr ⟨y, ys, first, others, rfl⟩, .cons related agree⟩

theorem exists_mapM_eq_ok (each : ∀ x ∈ xs, ∃ y, f x = .ok y) : ∃ ys, xs.mapM f = .ok ys := by
  have alone : List.Forall₂ (fun x' x => ∃ y, f x = .ok y ∧ f x' = .ok y) xs xs :=
    List.forall₂_same.2 fun x member => (each x member).imp fun _ ok => ⟨ok, ok⟩
  obtain ⟨ys, together, -⟩ := exists_mapM_of_forall₂ alone
  exact ⟨ys, together⟩

/-- What actions give together each of them gives alone. -/
theorem exists_of_mem_mapM {y : β} (known : xs.mapM f = .ok ys) (member : y ∈ ys) :
    ∃ x ∈ xs, f x = .ok y := by
  induction xs generalizing ys with
  | nil =>
    cases known
    cases member
  | cons x xs ih =>
    obtain ⟨y', others, first, rest, rfl⟩ := mapM_cons_eq_ok.mp known
    rcases List.mem_cons.mp member with rfl | later
    · exact ⟨x, List.mem_cons_self .., first⟩
    · obtain ⟨x', inside, same⟩ := ih rest later
      exact ⟨x', List.mem_cons_of_mem _ inside, same⟩

/-- What is known of what each action gives is known of all that they give together. -/
theorem map_eq_of_mapM {γ : Type} {g : β → γ} {h : α → γ} (known : xs.mapM f = .ok ys)
    (same : ∀ x ∈ xs, ∀ y, f x = .ok y → g y = h x) : ys.map g = xs.map h := by
  induction xs generalizing ys with
  | nil =>
    cases known
    rfl
  | cons x xs ih =>
    obtain ⟨first, rest⟩ := List.forall_mem_cons.mp same
    obtain ⟨y, others, given, together, rfl⟩ := mapM_cons_eq_ok.mp known
    rw [List.map_cons, List.map_cons, first y given, ih together rest]

end Companion

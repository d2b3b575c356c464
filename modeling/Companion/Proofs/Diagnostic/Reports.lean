import Companion.Diagnostic.Checked

/-! What checks report, whether they tell that they fail, and what they leave, put together of their
parts. -/

set_option autoImplicit false

namespace Companion.Checked

section

variable {α β : Type}

theorem diagnostics_map (f : α → β) (x : Checked α) : (f <$> x).diagnostics = x.diagnostics := by
  rw [diagnostics, buffer_map, diagnostics]

theorem diagnostics_seq (f : Checked (α → β)) (x : Checked α) :
    (f <*> x).diagnostics = f.diagnostics ++ x.diagnostics := rfl

theorem diagnostics_andThen (x : Checked α) (f : α → Checked β) :
    (x.andThen f).diagnostics = x.diagnostics ++ x.value.elim [] fun a => (f a).diagnostics := by
  rw [diagnostics, andThen, DiagnosticBuffer.entries_append, diagnostics]
  cases x.value <;> rfl

theorem diagnostics_all (xs : List (Checked α)) :
    (all xs).diagnostics = xs.flatMap diagnostics := by
  induction xs with
  | nil => rfl
  | cons x others ih =>
    rw [all, diagnostics_seq, diagnostics_map, ih, List.flatMap_cons]

end

/-- Everything that a check reports is of a kind. -/
def Reports {α : Type} (P : Diagnostic → Prop) (x : Checked α) : Prop := ∀ d ∈ x.diagnostics, P d

namespace Reports

variable {α β γ : Type} {P : Diagnostic → Prop} {x : Checked α}

theorem pure (a : α) : Reports P (Pure.pure a : Checked α) := nofun

theorem ok : Reports P Checked.ok := nofun

theorem map {f : α → β} (reports : Reports P x) : Reports P (f <$> x) := by
  intro d member
  rw [diagnostics_map] at member
  exact reports d member

theorem seq {f : Checked (α → β)} (first : Reports P f) (rest : Reports P x) :
    Reports P (f <*> x) := by
  intro d member
  exact (List.mem_append.mp member).elim (first d) (rest d)

/-- A check of a value is made only of a value that there is. -/
theorem andThen {f : α → Checked β} (first : Reports P x)
    (rest : ∀ a, x.value = some a → Reports P (f a)) : Reports P (x.andThen f) := by
  intro d member
  rw [diagnostics_andThen, List.mem_append] at member
  refine member.elim (first d) fun later => ?_
  cases known : x.value with
  | none => simp [known] at later
  | some a => exact rest a known d (by simpa [known] using later)

theorem all {xs : List (Checked α)} (each : ∀ x ∈ xs, Reports P x) : Reports P (all xs) := by
  induction xs with
  | nil => exact pure []
  | cons x others ih =>
    obtain ⟨first, rest⟩ := List.forall_mem_cons.mp each
    exact seq (map first) (ih rest)

theorem allMap {f : γ → Checked α} {ys : List γ} (each : ∀ y ∈ ys, Reports P (f y)) :
    Reports P (Checked.all (ys.map f)) := all (List.forall_mem_map.mpr each)

theorem failWith {l : Location} {template : String} {arguments : List String}
    (reported : P ⟨.error, template, arguments, l⟩) :
    Reports P (failWith l template arguments : Checked α) := by
  intro d member
  cases List.mem_singleton.mp member
  exact reported

theorem report {severity : Severity} {l : Location} {template : String} {arguments : List String}
    (reported : P ⟨severity, template, arguments, l⟩) :
    Reports P (report severity l template arguments) := by
  intro d member
  cases List.mem_singleton.mp member
  exact reported

end Reports

/-- A check leaves no value exactly if it reports something of a kind. -/
def Tells {α : Type} (P : Diagnostic → Prop) (x : Checked α) : Prop :=
  x.value = none ↔ ∃ d ∈ x.diagnostics, P d

namespace Tells

variable {α β γ : Type} {P : Diagnostic → Prop} {x : Checked α}

theorem noted {a : α} {ds : Diagnostics} (harmless : ∀ d ∈ ds, ¬P d) : Tells P (noted a ds) := by
  constructor
  · nofun
  · rintro ⟨d, member, told⟩
    exact absurd told (harmless d member)

theorem pure (a : α) : Tells P (Pure.pure a : Checked α) := noted nofun

theorem ok : Tells P Checked.ok := pure ()

theorem map {f : α → β} (tells : Tells P x) : Tells P (f <$> x) := by
  rw [Tells, diagnostics_map, value_map, Option.map_eq_none_iff]
  exact tells

theorem seq {f : Checked (α → β)} (first : Tells P f) (rest : Tells P x) : Tells P (f <*> x) := by
  have lost : (f <*> x).value = none ↔ f.value = none ∨ x.value = none := by
    rw [value_seq]
    cases f.value <;> simp
  rw [Tells, lost, diagnostics_seq]
  simp only [List.mem_append, or_and_right, exists_or]
  exact or_congr first rest

/-- A check that is not made has nothing to tell: there is no value for another reason. -/
theorem andThen {f : α → Checked β} (first : Tells P x)
    (rest : ∀ a, x.value = some a → Tells P (f a)) : Tells P (x.andThen f) := by
  rw [Tells, diagnostics_andThen, value_andThen]
  cases known : x.value with
  | none => simpa using first.mp known
  | some a =>
    have silent : ¬∃ d ∈ x.diagnostics, P d := fun told => by
      rw [first.mpr told] at known
      cases known
    have later : (f a).value = none ↔ ∃ d ∈ (f a).diagnostics, P d := rest a known
    simp only [List.mem_append, or_and_right, exists_or, silent, false_or]
    exact later

theorem all {xs : List (Checked α)} (each : ∀ x ∈ xs, Tells P x) : Tells P (all xs) := by
  induction xs with
  | nil => exact pure []
  | cons x others ih =>
    obtain ⟨first, rest⟩ := List.forall_mem_cons.mp each
    exact seq (map first) (ih rest)

theorem allMap {f : γ → Checked α} {ys : List γ} (each : ∀ y ∈ ys, Tells P (f y)) :
    Tells P (Checked.all (ys.map f)) := all (List.forall_mem_map.mpr each)

theorem failWith {l : Location} {template : String} {arguments : List String}
    (told : P ⟨.error, template, arguments, l⟩) :
    Tells P (failWith l template arguments : Checked α) :=
  ⟨fun _ => ⟨_, List.mem_singleton_self _, told⟩, fun _ => rfl⟩

theorem report {severity : Severity} {l : Location} {template : String} {arguments : List String}
    (harmless : ¬P ⟨severity, template, arguments, l⟩) :
    Tells P (report severity l template arguments) :=
  noted (List.forall_mem_singleton.mpr harmless)

end Tells

/-- What a check leaves: a value unless something rules it out, and reports either way. -/
structure Leaves {α : Type} (x : Checked α) (ruledOut : Prop) (a : α) (ds : Diagnostics) :
    Prop where
  lost : ruledOut → x.value = none
  kept : ¬ruledOut → x.value = some a
  diagnostics : x.diagnostics = ds

namespace Leaves

variable {α β γ : Type} {x : Checked α} {ruledOut : Prop} {a : α} {ds : Diagnostics}

theorem congr {ruledOut' : Prop} (leaves : x.Leaves ruledOut a ds) (same : ruledOut' ↔ ruledOut) :
    x.Leaves ruledOut' a ds :=
  ⟨leaves.lost ∘ same.mp, leaves.kept ∘ mt same.mpr, leaves.diagnostics⟩

theorem map (f : α → β) (leaves : x.Leaves ruledOut a ds) :
    (f <$> x).Leaves ruledOut (f a) ds where
  lost impossible := by rw [value_map, leaves.lost impossible, Option.map_none]
  kept possible := by rw [value_map, leaves.kept possible, Option.map_some]
  diagnostics := (diagnostics_map f x).trans leaves.diagnostics

/-- Every check is made, whatever the others leave. -/
theorem allMap {f : γ → Checked α} {ruledOut : γ → Prop} {value : γ → α} {reports : γ → Diagnostics}
    (ys : List γ) (each : ∀ y, (f y).Leaves (ruledOut y) (value y) (reports y)) :
    (all (ys.map f)).Leaves (∃ y ∈ ys, ruledOut y) (ys.map value) (ys.flatMap reports) where
  lost := by
    rintro ⟨y, member, impossible⟩
    refine Option.eq_none_iff_forall_ne_some.mpr fun values succeeds => ?_
    have same := value_all_eq_some.mp succeeds
    have here : (f y).value ∈ values.map some := by
      rw [← same, List.map_map]
      exact List.mem_map_of_mem (f := Checked.value ∘ f) member
    obtain ⟨_, -, value⟩ := List.mem_map.mp here
    rw [(each y).lost impossible] at value
    cases value
  kept possible := by
    refine value_all_eq_some.mpr ?_
    rw [List.map_map, List.map_map]
    exact List.map_congr_left fun y member =>
      (each y).kept fun impossible => possible ⟨y, member, impossible⟩
  diagnostics := by
    rw [diagnostics_all, List.flatMap_map]
    exact congrArg (ys.flatMap ·) (funext fun y => (each y).diagnostics)

end Leaves

end Companion.Checked

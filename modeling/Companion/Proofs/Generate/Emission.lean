import Companion.Generate.Run
import Companion.Proofs.Emit.Balance

/-! Units of generators are complete.

The steps of every generator are balanced at the top level, so the only thing that can go wrong with
a unit is an interceptor that does not fit its method, and that never ends a run.
-/

set_option autoImplicit false

namespace Companion

open Emitter

namespace Generation

variable {outer : BlockKind}

theorem balanced_documentation (description : Option String)
    (allowed : (outer.holdsItems || outer == .struct) = true) :
    Balanced outer (documentation description) := by
  refine Balanced.of_singles fun s member => ?_
  obtain ⟨line, -, rfl⟩ := List.mem_map.mp member
  exact .note _ allowed

/-- A function of statements, wherever items can be. -/
theorem balanced_function {steps : List Step} {opener : String} (allowed : outer.holdsItems = true)
    (content : Balanced .function steps) : Balanced outer (block .function opener steps) :=
  .block allowed (by decide) content

theorem balanced_branch {opener text : String} :
    Balanced .function (block .ifBlock opener [.statement text]) :=
  .block rfl (by decide) (.statement _ rfl)

/-! ### The builder -/

theorem balanced_setterSteps (f : Model.Field) : Balanced .impl (setterSteps f) :=
  .cons .blank <| balanced_function rfl <| .cons (.statement _ rfl) (.statement _ rfl)

theorem balanced_requiredSteps (g : Generation) (required : List Model.Field) :
    Balanced .function (g.requiredSteps required) := by
  unfold requiredSteps
  split
  · exact .nil
  · exact (((Balanced.statement _ rfl).append (.flatMap fun _ _ => balanced_branch)).append
      balanced_branch).append (.statement _ rfl)

theorem balanced_buildSteps (g : Generation) : Balanced .impl g.buildSteps :=
  .cons .blank <| balanced_function rfl <|
    (g.balanced_requiredSteps _).append (.statement _ rfl)

theorem balanced_builderSteps (g : Generation) : Balanced .module g.builderSteps := by
  have slots : Balanced .struct
      (g.model.inputs.map fun f => .field (f.name ++ ": Option<" ++ f.type.render ++ ">")) := by
    refine Balanced.of_singles fun s member => ?_
    obtain ⟨f, -, rfl⟩ := List.mem_map.mp member
    exact .field _
  have fresh : Balanced .impl (block .function "fn default() -> Self" [.statement "Self::new()"]) :=
    balanced_function rfl (.statement _ rfl)
  have methods : Balanced .impl (block .function "pub fn new() -> Self"
      [.statement ("Self \x7b " ++ commaList (g.model.inputs.map slot) ++ " \x7d")] ++
      (setterOrder g.model.inputs).flatMap setterSteps ++ g.buildSteps) :=
    ((balanced_function rfl (.statement _ rfl)).append
      (.flatMap fun f _ => balanced_setterSteps f)).append g.balanced_buildSteps
  exact (((((Balanced.cons (.note _ rfl) (.note _ rfl)).append
    (.block rfl (by decide) slots)).append .blank).append
    (.block rfl (by decide) fresh)).append .blank).append (.block rfl (by decide) methods)

/-! ### The converter -/

theorem balanced_encodeSteps (g : Generation) : Balanced .impl g.encodeSteps := by
  refine balanced_function rfl (.append ?_ (.statement _ rfl))
  split
  · exact .statement _ rfl
  · exact .nil

theorem balanced_decodeFieldSteps (g : Generation) (f : Model.Field) :
    Balanced .function (g.decodeFieldSteps f) := by
  unfold decodeFieldSteps
  split
  · exact .statement _ rfl
  · exact balanced_branch

theorem balanced_decodeSteps (g : Generation) : Balanced .impl g.decodeSteps :=
  balanced_function rfl <|
    ((Balanced.cons (.statement _ rfl) (.statement _ rfl)).append
      (.flatMap fun f _ => g.balanced_decodeFieldSteps f)).append
      (.cons (.statement _ rfl) (.statement _ rfl))

theorem balanced_converterSteps (g : Generation) : Balanced .module g.converterSteps := by
  refine .append (.append ?_ ?_) ?_
  · split
    · exact .use _
    · exact .nil
  · exact .cons (.note _ rfl) (.cons (.item _ rfl) .blank)
  · exact .block rfl (by decide)
      ((g.balanced_encodeSteps.append .blank).append g.balanced_decodeSteps)

/-! ### The concrete type -/

theorem balanced_fieldSteps (f : Model.Field) : Balanced .struct (fieldSteps f) :=
  (balanced_documentation _ rfl).append (.field _)

theorem balanced_structSteps (g : Generation) (state : List StateField) :
    Balanced .module (g.structSteps state) := by
  have added : Balanced .struct (state.map fun s => .field (s.name ++ ": " ++ s.type)) := by
    refine Balanced.of_singles fun s member => ?_
    obtain ⟨f, -, rfl⟩ := List.mem_map.mp member
    exact .field _
  exact ((balanced_documentation _ rfl).append (.note _ rfl)).append
    (.block rfl (by decide) ((Balanced.flatMap fun f _ => balanced_fieldSteps f).append added))

/-- Only statements come of the checks and bindings of a constructor. -/
theorem balanced_constructorSteps (g : Generation) (state : List StateField) :
    Balanced .impl (g.constructorSteps state) := by
  have bindings (binding : Model.Field → Option Step) (fields : List Model.Field)
      (only : ∀ f s, binding f = some s → ∃ text, s = .statement text) :
      Balanced .function (fields.filterMap binding) := by
    refine Balanced.of_singles fun s member => ?_
    obtain ⟨f, -, found⟩ := List.mem_filterMap.mp member
    obtain ⟨text, rfl⟩ := only f s found
    exact .statement _ rfl
  have checks (fields : List Model.Field) : Balanced .function (fields.flatMap g.checkSteps) := by
    refine Balanced.flatMap fun f _ => Balanced.of_singles fun s member => ?_
    obtain ⟨c, -, rfl⟩ := List.mem_map.mp member
    exact .statement _ rfl
  have defaults := bindings defaultStep g.model.inputs fun f s found => by
    obtain ⟨e, -, rfl⟩ := Option.map_eq_some_iff.mp found
    exact ⟨_, rfl⟩
  have derivations := bindings derivationStep g.model.derivedFields
    fun f s found => by
      obtain ⟨e, -, rfl⟩ := Option.map_eq_some_iff.mp found
      exact ⟨_, rfl⟩
  refine .append ?_ (balanced_function rfl ((((defaults.append (checks _)).append
    derivations).append (checks _)).append (.statement _ rfl)))
  split
  · exact .note _ rfl
  · exact .nil

theorem balanced_accessorSteps (f : Model.Field) : Balanced .impl (accessorSteps f) := by
  unfold accessorSteps
  split
  · exact .nil
  · exact balanced_function rfl (.statement _ rfl)

theorem balanced_methodSteps (m : WovenMethod) : Balanced .impl (methodSteps m) := by
  refine balanced_function rfl (Balanced.of_singles fun s member => ?_)
  obtain ⟨text, -, rfl⟩ := List.mem_map.mp member
  exact .statement _ rfl

theorem balanced_equalitySteps (g : Generation) : Balanced .module g.equalitySteps :=
  .block rfl (by decide) (balanced_function rfl (.statement _ rfl))

theorem balanced_subclassSteps (g : Generation) (methods : List WovenMethod) :
    Balanced .module (g.subclassSteps methods) := by
  have own := g.balanced_constructorSteps (methods.flatMap (·.stateFields))
  have overridden : Balanced .impl
      (g.model.fields.flatMap accessorSteps ++ methods.flatMap methodSteps) :=
    (Balanced.flatMap fun f _ => balanced_accessorSteps f).append
      (Balanced.flatMap fun m _ => balanced_methodSteps m)
  refine .append (((((g.balanced_structSteps _).append .blank).append
    (.block rfl (by decide) own)).append .blank).append (.block rfl (by decide) overridden)) ?_
  split
  · exact .nil
  · exact .cons .blank g.balanced_equalitySteps

/-! ### Units -/

theorem balanced_steps {g : Generation} {kind : ArtifactKind} {steps : List Step}
    (known : g.steps kind = .ok steps) : Balanced .module steps := by
  cases kind with
  | subclass =>
    cases woven : g.woven with
    | error e => simp [Generation.steps, woven, bind, Except.bind] at known
    | ok methods =>
      simp only [Generation.steps, woven] at known
      cases known
      exact g.balanced_subclassSteps methods
  | builder =>
    cases known
    exact g.balanced_builderSteps
  | converter =>
    cases known
    exact g.balanced_converterSteps

/-- A unit fails for its interceptors alone. -/
theorem unit_error {g : Generation} {kind : ArtifactKind} {e : GenerateError}
    (fails : g.unit kind = .error e) : ∃ reason, e = .intercept reason := by
  cases known : g.steps kind with
  | error reason =>
    simp only [Generation.unit, known] at fails
    cases fails
    exact ⟨reason, rfl⟩
  | ok steps =>
    obtain ⟨text, whole⟩ := unit_of_balanced (balanced_steps known)
    have complete : g.unit kind = .ok text := by
      simp only [Generation.unit, known]
      change (Emitter.unit steps).mapError GenerateError.emit = _
      rw [whole]
      rfl
    rw [complete] at fails
    cases fails

end Generation

end Companion

import Companion.Proofs.Emit.Functions
import Companion.Proofs.Generate.Interface
import Companion.Proofs.Intercept.Weave
import Companion.Proofs.Model.Build

/-! The units of a declaration fit together.

Each of the three is generated from the model alone. What they share is read back from the steps of
each: parameters and arguments of the constructor, setters and their calls, entries and their
readings.
-/

set_option autoImplicit false

namespace Companion.Generation

open Step

variable {g : Generation}

/-! ### The concrete type -/

/-- The signature of a constructor with the parameters. -/
def constructorText (g : Generation) (parameters : List TypedName) : String :=
  "pub fn new(" ++ commaList (parameters.map TypedName.text) ++ ") -> Result<Self, " ++
    g.runtime "ContractViolation" ++ ">"

/-- What a constructor does, from applying defaults to the value it returns. -/
def constructorBody (g : Generation) (state : List StateField) : List Step :=
  g.model.inputs.filterMap defaultStep ++ g.model.inputs.flatMap g.checkSteps ++
    g.model.derivedFields.filterMap derivationStep ++ g.model.derivedFields.flatMap g.checkSteps ++
    [.statement (g.initializer state)]

/-- The constructor takes what is supplied, in order. -/
theorem declares_constructorSteps (g : Generation) (state : List StateField) :
    Declares (g.constructorSteps state)
      [(g.constructorText (g.model.inputs.map (·.parameter)), g.constructorBody state)] := by
  have statements (binding : Model.Field → Option Step) (fields : List Model.Field)
      (only : ∀ f s, binding f = some s → s.IsPlain = true) : IsBody (fields.filterMap binding) :=
    .of_plain fun s member => by
      obtain ⟨f, -, found⟩ := List.mem_filterMap.mp member
      exact only f s found
  have checks (fields : List Model.Field) : IsBody (fields.flatMap g.checkSteps) :=
    .flatMap fun f _ => .of_plain fun s member => by
      obtain ⟨c, -, rfl⟩ := List.mem_map.mp member
      rfl
  have defaults := statements defaultStep g.model.inputs fun f s found => by
    obtain ⟨e, -, rfl⟩ := Option.map_eq_some_iff.mp found
    rfl
  have derivations := statements derivationStep g.model.derivedFields fun f s found => by
    obtain ⟨e, -, rfl⟩ := Option.map_eq_some_iff.mp found
    rfl
  have parameters : (g.model.inputs.map fun f => f.name ++ ": " ++ parameterType f) =
      (g.model.inputs.map (·.parameter)).map TypedName.text := by
    rw [List.map_map]
    exact List.map_congr_left fun f _ => (text_parameter f).symm
  have body := (((defaults.append (checks g.model.inputs)).append derivations).append
    (checks g.model.derivedFields)).append (.plain (s := .statement (g.initializer state)) rfl)
  have allowed : Declares (if 7 < g.model.inputs.length then
      [.note "#[allow(clippy::too_many_arguments)]"] else []) [] := by
    split
    · exact .plain rfl
    · exact .nil
  simp only [constructorSteps, parameters]
  exact allowed.append body.function

/-- Functions that are found by the trait of the type, so that none of them is a constructor. -/
def OfTrait (found : List (String × List Step)) : Prop :=
  ∀ f ∈ found, Text.startsWith "fn " f.1 = true

theorem OfTrait.append {found more : List (String × List Step)} (first : OfTrait found)
    (rest : OfTrait more) : OfTrait (found ++ more) :=
  fun f member => (List.mem_append.mp member).elim (first f) (rest f)

theorem startsWith_append (start rest : String) : Text.startsWith start (start ++ rest) = true := by
  rw [Text.startsWith, String.toList_append, List.isPrefixOf_iff_prefix]
  exact List.prefix_append ..

theorem declares_documentation (description : Option String) :
    Declares (documentation description) [] :=
  (IsBody.of_plain fun s member => by
    obtain ⟨line, -, rfl⟩ := List.mem_map.mp member
    rfl).declares

/-- Plain steps do not add to what is declared. -/
theorem declares_structSteps (g : Generation) (state : List StateField) :
    Declares (g.structSteps state) [] := by
  have fields : Declares (g.model.fields.flatMap fieldSteps) [] := by
    refine (IsBody.flatMap fun f _ => .of_plain fun s member => ?_).declares
    rcases List.mem_append.mp member with note | field
    · obtain ⟨line, -, rfl⟩ := List.mem_map.mp note
      rfl
    · cases List.mem_singleton.mp field
      rfl
  have added : Declares (state.map fun s => .field (s.name ++ ": " ++ s.type)) [] := by
    refine (IsBody.of_plain fun s member => ?_).declares
    obtain ⟨f, -, rfl⟩ := List.mem_map.mp member
    rfl
  exact ((declares_documentation _).append (.plain rfl)).append
    (.block (fields.append added) (by decide))

/-- The function that reads a field, unless it is read directly. -/
def accessorFunctions (f : Model.Field) : List (String × List Step) :=
  f.accessor.toList.map fun accessor => ("fn " ++ accessor ++ "(&self) -> " ++ f.type.render,
    [.statement ("self." ++ f.name ++ (if f.type.isCopy then "" else ".clone()"))])

/-- The function that a woven method becomes. -/
def methodFunction (m : WovenMethod) : String × List Step :=
  (m.signature, m.statements.map .statement)

theorem declares_accessorSteps (f : Model.Field) :
    Declares (accessorSteps f) (accessorFunctions f) := by
  unfold accessorSteps accessorFunctions
  cases f.accessor with
  | none => exact .nil
  | some accessor => exact (IsBody.plain rfl).function

theorem ofTrait_accessorFunctions (fields : List Model.Field) :
    OfTrait (fields.flatMap accessorFunctions) := by
  intro found member
  obtain ⟨f, -, inside⟩ := List.mem_flatMap.mp member
  obtain ⟨accessor, -, rfl⟩ := List.mem_map.mp inside
  simp only [String.append_assoc]
  exact startsWith_append ..

theorem declares_methodSteps (methods : List WovenMethod) :
    Declares (methods.flatMap methodSteps) (methods.map methodFunction) := by
  rw [List.map_eq_flatMap]
  refine .flatMap fun m _ => (IsBody.of_plain fun s member => ?_).function
  obtain ⟨text, -, rfl⟩ := List.mem_map.mp member
  rfl

/-- Equality is compared by one function, if it is not derived. -/
theorem exists_declares_equalitySteps (g : Generation) (derived : Bool) :
    ∃ found, Declares (if derived then [] else .blank :: g.equalitySteps) found ∧
      ∀ f ∈ found, f.1 = "fn eq(&self, other: &Self) -> bool" := by
  cases derived
  · refine ⟨_, .cons (.plain rfl) (.block (IsBody.plain rfl).function (by decide)),
      fun f member => ?_⟩
    cases List.mem_singleton.mp member
    rfl
  · exact ⟨[], .nil, nofun⟩

/-- The functions of the concrete type are its constructor, those of its trait and equality. -/
theorem declares_subclassSteps (g : Generation) (methods : List WovenMethod) :
    ∃ equality, Declares (g.subclassSteps methods)
      ((g.constructorText (g.model.inputs.map (·.parameter)),
          g.constructorBody (methods.flatMap (·.stateFields))) ::
        (g.model.fields.flatMap accessorFunctions ++ methods.map methodFunction ++ equality)) ∧
      ∀ f ∈ equality, f.1 = "fn eq(&self, other: &Self) -> bool" := by
  have constructor := g.declares_constructorSteps (methods.flatMap (·.stateFields))
  obtain ⟨found, compares, equality⟩ :=
    g.exists_declares_equalitySteps (methods.flatMap (·.stateFields)).isEmpty
  refine ⟨found, ?_, equality⟩
  have blank : Declares [.blank] [] := .plain rfl
  have own : Declares (block .impl ("impl " ++ g.outputName .subclass)
      (g.constructorSteps (methods.flatMap (·.stateFields)))) _ := .block constructor (by decide)
  have accessors : Declares (g.model.fields.flatMap accessorSteps) _ :=
    .flatMap fun f _ => declares_accessorSteps f
  have ofTheTrait : Declares (block .impl ("impl " ++ g.model.traitPath ++ " for " ++
      g.outputName .subclass) (g.model.fields.flatMap accessorSteps ++
        methods.flatMap methodSteps)) _ :=
    .block (accessors.append (declares_methodSteps methods)) (by decide)
  have whole := (((((g.declares_structSteps (methods.flatMap (·.stateFields))).append
    blank).append own).append blank).append ofTheTrait).append compares
  simpa [subclassSteps] using whole

/-- The constructor is the one function of the concrete type that is not found by a trait. -/
theorem functions_of_woven {methods : List WovenMethod} (woven : g.woven = .ok methods) :
    ∃ others, functions (g.subclassSteps methods) =
      (g.constructorText (g.model.inputs.map (·.parameter)),
        g.constructorBody (methods.flatMap (·.stateFields))) :: others ∧ OfTrait others := by
  obtain ⟨equality, declares, named⟩ := g.declares_subclassSteps methods
  refine ⟨_, declares.functions_eq,
    ((ofTrait_accessorFunctions g.model.fields).append fun f member => ?_).append
      fun f member => ?_⟩
  · -- Weaving leaves the signature as the trait has it.
    obtain ⟨w, listed, rfl⟩ := List.mem_map.mp member
    obtain ⟨m, -, woven⟩ := exists_of_mem_mapM woven listed
    rw [methodFunction, Model.Method.signature_of_weave woven, Model.Method.signature]
    simp only [String.append_assoc]
    exact startsWith_append ..
  · rw [named f member]
    exact startsWith_append "fn " "eq(&self, other: &Self) -> bool"

theorem functions_subclass {steps : List Step} (known : g.steps .subclass = .ok steps) :
    ∃ body others, functions steps =
      (g.constructorText (g.model.inputs.map (·.parameter)), body) :: others ∧ OfTrait others := by
  obtain ⟨methods, woven, same⟩ := bind_eq_ok.mp known
  cases same
  exact ⟨_, functions_of_woven woven⟩

/-! ### The builder -/

/-- The call of the constructor with the arguments. -/
def constructorCall (g : Generation) (arguments : List String) : Step :=
  .statement ("Ok(" ++ g.outputName .subclass ++ "::new(" ++ commaList arguments ++ ")?)")

/-- The signature of the function that builds a value. -/
def buildText (g : Generation) : String :=
  "pub fn build(self) -> Result<" ++ g.outputName .subclass ++ ", " ++ g.runtime "BuildError" ++ ">"

/-- A binding that takes the values of the names out of their slots, unless one is missing. -/
def Unwraps (names : List String) (s : Step) : Prop :=
  ∃ otherwise, s = .statement ("let " ++ tupled (names.map fun name => "Some(" ++ name ++ ")") ++
    " = " ++ tupled (names.map fun name => "self." ++ name) ++ " else \x7b\n    " ++ otherwise)

theorem isBody_requiredSteps (g : Generation) (required : List Model.Field) :
    IsBody (g.requiredSteps required) := by
  have branch {opener text : String} : IsBody (block .ifBlock opener [.statement text]) :=
    .block (.plain rfl) (by decide)
  unfold requiredSteps
  split
  · exact .nil
  · exact (((IsBody.plain rfl).append (.flatMap fun _ _ => branch)).append branch).append
      (.plain rfl)

theorem unwraps_requiredSteps (g : Generation) {required : List Model.Field}
    (any : required ≠ []) :
    ∃ s ∈ g.requiredSteps required, Unwraps (required.map (·.name)) s := by
  rw [requiredSteps, if_neg (by simpa using any)]
  refine ⟨_, List.mem_append_right _ (List.mem_singleton_self _), ?_⟩
  simp only [Unwraps, List.map_map, String.append_assoc]
  exact ⟨_, rfl⟩

theorem constructorArguments_eq (g : Generation) :
    g.model.inputs.map constructorArgument =
      g.model.inputs.map fun f => f.passing.text f.name :=
  List.map_congr_left fun _ member => constructorArgument_eq (List.mem_filter.mp member).2

theorem declares_buildSteps (g : Generation) :
    Declares g.buildSteps [(g.buildText,
      g.requiredSteps (g.model.inputs.filter Model.Field.isRequired) ++
        [g.constructorCall (g.model.inputs.map fun f => f.passing.text f.name)])] := by
  rw [← constructorArguments_eq]
  exact .cons (.plain rfl) ((g.isBody_requiredSteps _).append (.plain rfl)).function

/-- Setters come between the two functions that a builder has in any case. -/
theorem declares_builderSteps (g : Generation) :
    ∃ fresh, Declares g.builderSteps
      (("fn default() -> Self", [.statement "Self::new()"]) :: ("pub fn new() -> Self", fresh) ::
        ((setterOrder g.model.inputs).map (fun f => (f.value.setter, f.value.setterBody)) ++
          [(g.buildText, g.requiredSteps (g.model.inputs.filter Model.Field.isRequired) ++
            [g.constructorCall (g.model.inputs.map fun f => f.passing.text f.name)])])) := by
  have slots : Declares (g.model.inputs.map fun f =>
      .field (f.name ++ ": Option<" ++ f.type.render ++ ">")) [] := by
    refine (IsBody.of_plain fun s member => ?_).declares
    obtain ⟨f, -, rfl⟩ := List.mem_map.mp member
    rfl
  have setters : Declares ((setterOrder g.model.inputs).flatMap setterSteps)
      ((setterOrder g.model.inputs).map fun f => (f.value.setter, f.value.setterBody)) := by
    rw [List.map_eq_flatMap]
    refine .flatMap fun f _ => ?_
    rw [setterSteps_eq]
    exact .cons (.plain rfl) (IsBody.cons rfl (.plain rfl)).function
  have fresh : Declares (block .function "fn default() -> Self" [.statement "Self::new()"])
      [("fn default() -> Self", [.statement "Self::new()"])] := (IsBody.plain rfl).function
  have empty : Declares (block .function "pub fn new() -> Self" [.statement ("Self \x7b " ++
      commaList (g.model.inputs.map slot) ++ " \x7d")]) _ := (IsBody.plain rfl).function
  exact ⟨_, (((((Declares.cons (.plain rfl) (.plain rfl)).append
    (.block slots (by decide))).append (.plain rfl)).append
    (.block fresh (by decide))).append (.plain rfl)).append
    (.block ((empty.append setters).append g.declares_buildSteps) (by decide))⟩

theorem fieldTexts_builderSteps (g : Generation) :
    fieldTexts g.builderSteps = g.model.inputs.map (·.slot.text) := by
  have slots : fieldTexts (g.model.inputs.map fun f =>
      .field (f.name ++ ": Option<" ++ f.type.render ++ ">")) =
        g.model.inputs.map (·.slot.text) := by
    simp only [fieldTexts, List.filterMap_map, text_slot]
    exact congrFun List.filterMap_eq_map _
  have setters : fieldTexts ((setterOrder g.model.inputs).flatMap setterSteps) = [] := by
    simp [fieldTexts, List.filterMap_flatMap, setterSteps, block]
  have build : fieldTexts g.buildSteps = [] := by
    simp only [fieldTexts, buildSteps, requiredSteps, block]
    split <;> simp [List.filterMap_flatMap]
  simp only [fieldTexts] at slots setters build ⊢
  simp [builderSteps, block, slots, setters, build]

/-! ### The converter -/

/-- The signature of the function that encodes a value. -/
def encodeText (g : Generation) : String :=
  "pub fn encode(instance: &" ++ g.outputName .subclass ++ ") -> " ++ g.runtime "Value"

/-- The signature of the function that decodes one. -/
def decodeText (g : Generation) : String :=
  "pub fn decode(value: &" ++ g.runtime "Value" ++ ") -> Result<" ++ g.outputName .subclass ++
    ", " ++ g.runtime "ConversionError" ++ ">"

/-- A record of the entries. -/
def recordOf (g : Generation) (entries : List String) : Step :=
  .statement (g.runtime "Value" ++ "::Record(vec![" ++ commaList entries ++ "])")

theorem isBody_decoding (g : Generation) (f : Model.Field) : IsBody (f.decoding g) := by
  unfold Model.Field.decoding
  split
  · exact .plain rfl
  · exact .block (.plain rfl) (by decide)

/-- What a decoder does first: it opens the reader of the record and the builder. -/
def decoderOpening (g : Generation) : List Step := [
  .statement ((if !g.model.fields.isEmpty then "let mut " else "let ") ++ "reader = " ++
    g.runtime "RecordReader" ++ "::new(" ++ Code.stringLiteral g.model.name ++ ", value)?;"),
  .statement ((if !g.model.inputs.isEmpty then "let mut " else "let ") ++ "builder = " ++
    g.outputName .builder ++ "::new();")]

/-- A converter encodes by one record and decodes field by field. -/
theorem declares_converterSteps (g : Generation) :
    ∃ unused, Declares g.converterSteps
      [(g.encodeText, unused ++ [g.recordOf (g.model.fields.map (·.entry g))]),
        (g.decodeText, g.decoderOpening ++ g.model.fields.flatMap (·.decoding g) ++
          [.statement "reader.finish()?;", .statement "Ok(builder.build()?)"])] ∧
      ∀ s ∈ unused, s = .statement "let _ = instance;" := by
  have entries : g.model.fields.map g.encodedEntry = g.model.fields.map (·.entry g) :=
    List.map_congr_left fun f _ => g.encodedEntry_eq f
  have readings : g.model.fields.flatMap g.decodeFieldSteps =
      g.model.fields.flatMap (·.decoding g) :=
    List.flatMap_congr fun f _ => g.decodeFieldSteps_eq f
  have encode : Declares g.encodeSteps [(g.encodeText,
      (if g.model.fields.isEmpty then [.statement "let _ = instance;"] else []) ++
        [g.recordOf (g.model.fields.map (·.entry g))])] := by
    rw [← entries]
    refine (IsBody.append ?_ (.plain rfl)).function
    split
    · exact .plain rfl
    · exact .nil
  have decode : Declares g.decodeSteps [(g.decodeText,
      g.decoderOpening ++ g.model.fields.flatMap (·.decoding g) ++
        [.statement "reader.finish()?;", .statement "Ok(builder.build()?)"])] := by
    have body : IsBody (g.decoderOpening ++ g.model.fields.flatMap (·.decoding g) ++
        [.statement "reader.finish()?;", .statement "Ok(builder.build()?)"]) :=
      ((IsBody.cons rfl (.plain rfl)).append (.flatMap fun f _ => g.isBody_decoding f)).append
        (.cons rfl (.plain rfl))
    rw [← readings] at body ⊢
    exact body.function
  have uses : Declares (if g.model.fields.any (·.nested.isNone) then
      [.use (g.runtime "Leaf" ++ " as _")] else []) [] := by
    split
    · exact .plain rfl
    · exact .nil
  refine ⟨_, (uses.append (.cons (.plain rfl) (.cons (.plain rfl) (.plain rfl)))).append
    (.block ((encode.append (.plain rfl)).append decode) (by decide)), fun s member => ?_⟩
  split at member
  · exact List.mem_singleton.mp member
  · cases member

/-! ### All three -/

/-- The fields that have a setter, in the order of the setters: required ones come first. -/
def settable (g : Generation) : List Model.Field :=
  g.model.inputs.filter Model.Field.isRequired ++ g.model.inputs.filter (!·.isRequired)

theorem setterOrder_inputs (g : Generation) : setterOrder g.model.inputs = g.settable := by
  have inputs : g.model.inputs.filter Model.Field.isInput = g.model.inputs := by
    rw [Model.inputs, List.filter_filter]
    simp only [Bool.and_self]
  rw [setterOrder, inputs, settable]

/-- The units of a declaration fit together, whatever its fields are. -/
structure UnitsAgree (g : Generation) : Prop where
  apart : (g.model.fields.map (·.name)).Nodup
  /-- The constructor takes every field that is supplied, in order. -/
  constructed : ∀ steps, g.steps .subclass = .ok steps → ∃ body others,
    functions steps = (g.constructorText (g.model.inputs.map (·.parameter)), body) :: others ∧
      OfTrait others
  /-- A builder has a slot for each of them. -/
  slots : fieldTexts g.builderSteps = g.model.inputs.map (·.slot.text)
  /-- It has a setter for each of them, and hands all of them to the constructor. -/
  built : ∃ fresh bindings, functions g.builderSteps =
    ("fn default() -> Self", [.statement "Self::new()"]) :: ("pub fn new() -> Self", fresh) ::
      (g.settable.map (fun f => (f.value.setter, f.value.setterBody)) ++
        [(g.buildText,
          bindings ++ [g.constructorCall (g.model.inputs.map fun f => f.passing.text f.name)])]) ∧
    (g.model.inputs.filter Model.Field.isRequired ≠ [] → ∃ s ∈ bindings,
      Unwraps ((g.model.inputs.filter Model.Field.isRequired).map (·.name)) s)
  settable : g.settable.Perm g.model.inputs
  /-- What is handed over is of the type that the constructor takes, and was unwrapped if it has to
  be. -/
  fits : ∀ f ∈ g.model.inputs, f.passing.type? f.type = some f.parameter.type ∧
    (f.passing = .value ↔ f.isRequired = true)
  /-- A converter writes an entry for each field and reads them back in order. -/
  converted : ∃ unused, functions g.converterSteps =
    [(g.encodeText, unused ++ [g.recordOf (g.model.fields.map (·.entry g))]),
      (g.decodeText, g.decoderOpening ++ g.model.fields.flatMap (·.decoding g) ++
        [.statement "reader.finish()?;", .statement "Ok(builder.build()?)"])] ∧
    ∀ s ∈ unused, s = .statement "let _ = instance;"
  /-- It calls setters that there are. -/
  called : ∀ f ∈ g.model.fields, f.isDerived = false →
    (f.value.setter, f.value.setterBody) ∈ functions g.builderSteps

variable {batch : Batch} {source : DeclarationSource} {d : Declaration}

theorem unitsAgree_of_ofDeclaration
    (built : (Model.ofDeclaration batch source d).value = some g.model) : g.UnitsAgree := by
  obtain ⟨fresh, builder⟩ := g.declares_builderSteps
  rw [setterOrder_inputs] at builder
  obtain ⟨unused, converter, discards⟩ := g.declares_converterSteps
  have permuted : g.settable.Perm g.model.inputs := List.filter_append_perm ..
  refine {
    apart := Model.names_of_ofDeclaration built
    constructed := fun _ known => functions_subclass known
    slots := g.fieldTexts_builderSteps
    built := ⟨fresh, _, builder.functions_eq, g.unwraps_requiredSteps⟩
    settable := permuted
    fits := fun f member => ⟨f.type_passing, ?_⟩
    converted := ⟨unused, converter.functions_eq, discards⟩
    called := fun f member input => ?_ }
  · rw [Model.Field.isRequired_eq (List.mem_filter.mp member).2, Model.Field.passing]
    cases f.isDefaulted <;> cases f.type.isNullable <;> simp
  -- What is not derived has a setter, wherever it stands among them.
  · have listed : f ∈ g.settable := permuted.mem_iff.mpr
      (List.mem_filter.mpr ⟨member, by simp [Model.Field.isInput, input]⟩)
    rw [builder.functions_eq]
    exact List.mem_cons_of_mem _ (List.mem_cons_of_mem _ (List.mem_append_left _
      (List.mem_map_of_mem listed)))

/-- A field that holds a declaration is of the type that the converter of the declaration gives, if
both know it by the same suffix. -/
theorem yields_of_ofDeclaration
    (built : (Model.ofDeclaration batch source d).value = some g.model)
    (known : batch.options.subclassSuffix = g.naming.subclassSuffix) {f : Model.Field}
    (member : f ∈ g.model.fields) : f.coding.Yields (g.nameOf · .subclass) f.type := by
  have holds := Model.nested_of_mem_fields built member
  unfold Model.Field.coding
  cases held : f.nested with
  | none => rfl
  | some nested =>
    obtain ⟨path, named, typed⟩ := Batch.type_of_nested? (holds.symm.trans held)
    rw [known] at named
    obtain ⟨declaration, shape⟩ := nested
    cases shape with
    | plain => exact ⟨path, typed, by rw [typed]; exact named⟩
    | optional => exact ⟨path, typed, named⟩
    | list =>
      obtain ⟨list, same, isVec⟩ := typed
      exact ⟨list, path, same, isVec, named⟩

/-- For every model and every table of checks, the units agree on the fields of the declaration, and
what a converter reads is what the setter takes. -/
theorem units_agree (built : (Model.ofDeclaration batch source d).value = some g.model) :
    g.UnitsAgree ∧ (batch.options.subclassSuffix = g.naming.subclassSuffix →
      ∀ f ∈ g.model.fields, f.coding.Yields (g.nameOf · .subclass) f.value.type) :=
  ⟨unitsAgree_of_ofDeclaration built, fun known _ member =>
    yields_of_ofDeclaration built known member⟩

/-- A declaration with a field of each role, one of which holds a list of the declaration itself. -/
theorem units_agree_node :
    let member (name type : String) (default derivation : Option String) : Declaration.Member :=
      ⟨none, some name, type, default, derivation, [], none⟩
    let node : Declaration := ⟨"Node", none, [], [],
      [member "step" "i64" (some "1") none, member "note" "Option<String>" none none,
        member "id" "i64" none none, member "double" "i64" none (some "id * 2"),
        member "parts" "Vec<NodeSubclass>" none none], [], none⟩
    ∃ g : Generation, (Model.ofDeclaration (.ofDeclarations ⟨8, "Subclass"⟩ [node])
        ⟨none, default, [node]⟩ node).value = some g.model ∧
      g.settable.map (·.name) = ["id", "parts", "step", "note"] ∧
      (g.UnitsAgree ∧
        ∀ f ∈ g.model.fields, f.coding.Yields (g.nameOf · .subclass) f.value.type) := by
  intro member node
  -- Only the order of the setters is evaluated; the rest follows for any model.
  have evaluated : ((Model.ofDeclaration (.ofDeclarations ⟨8, "Subclass"⟩ [node])
      ⟨none, default, [node]⟩ node).value.map fun m =>
        (settable ⟨m, default, .standard, "::declgen::runtime", 8⟩).map (·.name)) =
      some ["id", "parts", "step", "note"] := by decide +kernel
  obtain ⟨m, built, order⟩ := Option.map_eq_some_iff.mp evaluated
  have agreed := units_agree (g := ⟨m, default, .standard, "::declgen::runtime", 8⟩) built
  exact ⟨_, built, order, agreed.1, agreed.2 rfl⟩

end Companion.Generation

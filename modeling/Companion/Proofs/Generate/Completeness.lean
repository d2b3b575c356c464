import Companion.Proofs.Generate.Endings
import Companion.Proofs.Generate.Outcomes
import Companion.Proofs.Model.Methods
import Companion.Proofs.Model.Reports
import Companion.Proofs.Results
import Companion.Proofs.Text.Template

/-! Whatever has a model can be generated.

The model makes the checks that interceptors would make again, so that no declaration is given up
after its model was built, and what is left to be reported on its units is whether they parse.
-/

set_option autoImplicit false

namespace Companion

theorem Emitter.run_of_unit {steps : List Step} {text : String}
    (whole : Emitter.unit steps = .ok text) :
    ∃ e, steps.foldlM Emitter.step .empty = .ok e ∧ e.finish = .ok text := bind_eq_ok.mp whole

namespace Generation

variable {g : Generation} {kind : ArtifactKind}

/-- All that the generators of a declaration do succeeds: every method is woven, every step is
taken, and every unit is complete. -/
structure Succeeds (g : Generation) : Prop where
  weaves : ∀ m ∈ g.model.wovenMethods, ∃ w, m.weave g.contracts g.interceptContext = .ok w
  emits : ∀ kind, ∃ steps e text, g.steps kind = .ok steps ∧
    steps.foldlM Emitter.step .empty = .ok e ∧ e.finish = .ok text ∧ g.unit kind = .ok text

/-- The text of a unit. -/
def code (g : Generation) (kind : ArtifactKind) : String := (g.unit kind).toOption.getD ""

theorem Succeeds.unit_eq (complete : g.Succeeds) (kind : ArtifactKind) :
    g.unit kind = .ok (g.code kind) := by
  obtain ⟨_, _, text, -, -, -, generated⟩ := complete.emits kind
  rw [code, generated]
  rfl

theorem unit_of_steps {steps : List Step} {text : String} (known : g.steps kind = .ok steps)
    (whole : Emitter.unit steps = .ok text) : g.unit kind = .ok text := by
  rw [Generation.unit, known]
  change (Emitter.unit steps).mapError GenerateError.emit = _
  rw [whole]
  rfl

theorem exists_steps (weaves : ∀ m ∈ g.model.wovenMethods,
    ∃ w, m.weave g.contracts g.interceptContext = .ok w) (kind : ArtifactKind) :
    ∃ steps, g.steps kind = .ok steps := by
  cases kind with
  | subclass =>
    obtain ⟨methods, woven⟩ := exists_mapM_eq_ok weaves
    refine ⟨g.subclassSteps methods, ?_⟩
    rw [steps, Generation.woven, woven]
    rfl
  | builder => exact ⟨_, rfl⟩
  | converter => exact ⟨_, rfl⟩

variable {batch : Batch} {source : DeclarationSource} {d : Declaration}

/-- The generators succeed on every model, if interceptors are as generous as it was. -/
theorem succeeds_of_ofDeclaration
    (built : (Model.ofDeclaration batch source d).value = some g.model)
    (generous : batch.options.maxCacheArity ≤ g.maxCacheArity) : g.Succeeds := by
  have weaves : ∀ m ∈ g.model.wovenMethods,
      ∃ w, m.weave g.contracts g.interceptContext = .ok w := by
    intro m member
    obtain ⟨listed, woven⟩ := List.mem_filter.mp member
    -- What interceptors will ask of the method, the model has asked already.
    exact (Model.fits_of_ofDeclaration built listed).exists_weave woven generous g.contracts
  refine ⟨weaves, fun kind => ?_⟩
  obtain ⟨steps, known⟩ := exists_steps weaves kind
  obtain ⟨text, whole⟩ := Emitter.unit_of_balanced (balanced_steps known)
  obtain ⟨e, ran, finished⟩ := Emitter.run_of_unit whole
  exact ⟨steps, e, text, known, ran, finished, unit_of_steps known whole⟩

end Generation

namespace Run

variable {r : Run} {j : Job} {g : Generation} {kind : ArtifactKind}

/-- A run whose interceptors are as generous as its models. -/
def IsGenerous (r : Run) : Prop :=
  r.batch.options.maxCacheArity ≤ r.config.modelOptions.maxCacheArity

theorem isGenerous (layout : String → String) (config : Config)
    (sources : List DeclarationSource) : (ofSourcesWith layout config sources).IsGenerous :=
  Nat.le_refl _

theorem maxCacheArity_of_generation (known : (r.generation j).value = some g) :
    g.maxCacheArity = r.config.modelOptions.maxCacheArity := by
  simp only [generation, Checked.value_andThen, Checked.value_map, Option.bind_eq_some_iff,
    Option.map_eq_some_iff] at known
  obtain ⟨_, _, _, _, rfl⟩ := known
  rfl

theorem succeeds_of_generation (generous : r.IsGenerous)
    (known : (r.generation j).value = some g) : g.Succeeds := by
  obtain ⟨-, built, -⟩ := model_of_generation known
  exact Generation.succeeds_of_ofDeclaration built
    (maxCacheArity_of_generation known ▸ generous)

/-! ### What is reported on units -/

/-- The report on a unit that does not parse. -/
def parseWarning (j : Job) (g : Generation) (kind : ArtifactKind) : Diagnostic :=
  ⟨.warning, "The generated $ does not parse and is written unformatted: $",
    [g.outputName kind, Template.escape ("generated code does not parse: " ++ Text.unexplained)],
    j.location⟩

/-- The reports on the units of a declaration, of which those that parse have none. -/
def parseWarnings (j : Job) (g : Generation) (kinds : List ArtifactKind) : Diagnostics :=
  (kinds.filter fun kind => !Code.isFile (g.code kind)).map (parseWarning j g)

theorem diagnostics_finishText (r : Run) (j : Job) (g : Generation) (kind : ArtifactKind)
    (code : String) : (r.finishText j g kind code).diagnostics =
      if Code.isFile code then [] else [parseWarning j g kind] := by
  unfold finishText Code.checkedUnit?
  split <;> rfl

/-- A unit that is generated is only looked at whether it parses. -/
theorem artifact_of_succeeds (complete : g.Succeeds) (r : Run) (j : Job) (kind : ArtifactKind) :
    ∃ x : Checked Artifact, r.artifact j g kind = .ok x ∧ x.value ≠ none ∧
      x.diagnostics = parseWarnings j g [kind] := by
  refine ⟨_, by rw [artifact, complete.unit_eq kind], by simp [finishText], ?_⟩
  rw [Checked.diagnostics_map, diagnostics_finishText]
  cases parses : Code.isFile (g.code kind) <;> simp [parseWarnings, parses]

/-- So are all units of a declaration, in their order. -/
theorem units_of_succeeds (complete : g.Succeeds) (r : Run) (j : Job)
    (kinds : List ArtifactKind) :
    ∃ xs, kinds.mapM (r.artifact j g) = .ok xs ∧ (Checked.all xs).value ≠ none ∧
      (Checked.all xs).diagnostics = parseWarnings j g kinds := by
  induction kinds with
  | nil => exact ⟨[], rfl, nofun, rfl⟩
  | cons kind kinds ih =>
    obtain ⟨x, generated, value, reported⟩ := artifact_of_succeeds complete r j kind
    obtain ⟨xs, others, values, rest⟩ := ih
    refine ⟨x :: xs, by rw [List.mapM_cons, generated, others]; rfl, ?_, ?_⟩
    · obtain ⟨a, value⟩ := Option.ne_none_iff_exists'.mp value
      obtain ⟨units, values⟩ := Option.ne_none_iff_exists'.mp values
      simp [Checked.all, value, values]
    · rw [Checked.all, Checked.diagnostics_seq, Checked.diagnostics_map, reported, rest,
        parseWarnings, parseWarnings, ← List.map_append, ← List.filter_append]
      rfl

/-- What is reported on a declaration before its units are handed over: what is wrong with it, and
then which units do not parse. It fails by what is wrong with it alone. -/
theorem prepared_of_isGenerous (generous : r.IsGenerous) (j : Job) :
    ((r.prepared j).isFailed = (r.generation j).isFailed) ∧
      (r.prepared j).diagnostics = (r.generation j).diagnostics ++
        (r.generation j).value.elim [] fun g => parseWarnings j g g.model.artifacts := by
  cases known : (r.generation j).value with
  | none =>
    have prepared : r.prepared j = (r.generation j).andThen fun _ => pure [] := by
      simp only [Run.prepared, prepare, known, Option.elim]
      rfl
    exact ⟨by simp [prepared, Checked.isFailed, Checked.failed_eq, known],
      by rw [prepared, Checked.diagnostics_andThen, known]; rfl⟩
  | some g =>
    obtain ⟨xs, generated, value, reported⟩ :=
      units_of_succeeds (succeeds_of_generation generous known) r j g.model.artifacts
    have prepared : r.prepared j = (r.generation j).andThen fun _ => Checked.all xs := by
      simp only [Run.prepared, prepare, known, Option.elim, units, generated]
      rfl
    refine ⟨?_, ?_⟩
    · obtain ⟨units, value⟩ := Option.ne_none_iff_exists'.mp value
      simp [prepared, Checked.isFailed, Checked.failed_eq, known, value]
    · rw [prepared, Checked.diagnostics_andThen, known, Option.elim_some, reported,
        Option.elim_some]

/-! ### What is reported by a run -/

theorem reports_checkCycle (r : Run) (j : Job) (m : Model) :
    Checked.Reports (Diagnostic.IsOfCheckAt j.location) (r.checkCycle j m) := by
  unfold checkCycle
  split
  · split
    · exact Model.reports_model (Location.sharesOwner_refl _)
    · exact .ok
  · exact .ok

theorem reports_generation (r : Run) (j : Job) :
    Checked.Reports (Diagnostic.IsOfCheckAt j.location) (r.generation j) := by
  refine .andThen ?_ fun m modelled => .map (ContractTable.reports_ofModel ?_)
  · unfold model
    split
    · exact Model.reports_model (Location.sharesOwner_refl _)
    · exact .andThen Model.reports_ofDeclaration fun m _ => .map (r.reports_checkCycle j m)
  · exact Model.isAt_of_ofDeclaration (ofDeclaration_of_model modelled).2.1

theorem mem_refusals {l : Location} {units : List Artifact} {said : List (Except String Unit)}
    {d : Diagnostic} (member : d ∈ (refusals l units said).entries) :
    ∃ a ∈ units, ∃ e, d = refusal l a e := by
  fun_induction refusals l units said with
  | case1 a units reason said ih =>
    rcases List.mem_append.mp member with first | later
    · exact ⟨a, List.mem_cons_self .., _, List.mem_singleton.mp first⟩
    · obtain ⟨b, inside, same⟩ := ih later
      exact ⟨b, List.mem_cons_of_mem _ inside, same⟩
  | case2 a units said ih =>
    obtain ⟨b, inside, same⟩ := ih member
    exact ⟨b, List.mem_cons_of_mem _ inside, same⟩
  | case3 => cases member

/-- What is reported on a declaration: what is wrong with it, which units do not parse, and which
were refused. -/
theorem mem_reportsFor (generous : r.IsGenerous) {said : List (Except String Unit)}
    {d : Diagnostic} (member : d ∈ (r.reportsFor j said).entries) :
    d.IsOfCheckAt j.location ∨ (∃ g kind, d = parseWarning j g kind) ∨
      ∃ a e, d = refusal j.location a e := by
  rcases List.mem_append.mp member with before | after
  · change d ∈ (r.prepared j).diagnostics at before
    rw [(prepared_of_isGenerous generous j).2, List.mem_append] at before
    rcases before with wrong | unparsed
    · exact .inl (r.reports_generation j d wrong)
    · cases known : (r.generation j).value with
      | none => rw [known] at unparsed; cases unparsed
      | some g =>
        rw [known] at unparsed
        obtain ⟨kind, -, same⟩ := List.mem_map.mp unparsed
        exact .inr (.inl ⟨g, kind, same.symm⟩)
  · obtain ⟨a, -, e, same⟩ := mem_refusals after
    exact .inr (.inr ⟨a, e, same⟩)

variable {σ : Type} {sink : Sink (StateM σ)} {s : σ} {e : Ending σ}

/-- What a run reports is reported on one of its declarations. -/
theorem exists_job_of_mem_reported (ended : r.Ends sink s e) {d : Diagnostic}
    (member : d ∈ e.reported) : ∃ j ∈ r.jobs, ∃ said, d ∈ (r.reportsFor j said).entries := by
  obtain ⟨generated, flushed, inOrder, records, known⟩ := explained_of_ends ended
  rw [known.reported] at member
  obtain ⟨x, listed, inside⟩ := List.mem_flatMap.mp member
  have listed := known.sameFlushed.mem_iff.mp listed
  obtain ⟨said, -, product⟩ :=
    product_of_replayed known.replayed x (known.sameGenerated.mem_iff.mpr listed)
  rw [product] at inside
  exact ⟨x.job, known.jobs ▸ List.mem_map_of_mem listed, said, inside⟩

end Run

/-- What is reported on units alone. -/
def Diagnostic.unitTemplates : List String := [
  "The $ could not be generated: $",
  "The generated $ does not parse and is written unformatted: $",
  "The $ could not be written: $"]

/-- No check of a declaration reports on units. -/
theorem Diagnostic.OfCheck.template_ne {d : Diagnostic} (reported : d.OfCheck) {template : String}
    (ofUnits : template ∈ unitTemplates) : d.template ≠ template := by
  rintro rfl
  cases reported with
  | model e l =>
    -- A message that is no template has no hole to be filled.
    have holes : ∀ t ∈ unitTemplates, Template.holes t ≠ 0 := by decide
    exact holes _ ofUnits (Template.holes_escape _)
  | finding f l => cases f <;> simp [unitTemplates, Finding.template] at ofUnits
  | _ => simp [unitTemplates] at ofUnits

/-- Every declaration that has a model is generated, whatever the checks, names and path, by
interceptors that are as generous as the model; so no run is ended by a declaration, and none says
that a unit could not be generated. -/
theorem generation_complete :
    (∀ (batch : Batch) (source : DeclarationSource) (d : Declaration) (g : Generation),
      (Model.ofDeclaration batch source d).value = some g.model →
      batch.options.maxCacheArity ≤ g.maxCacheArity → g.Succeeds) ∧
    ∀ (σ : Type) (layout : String → String) (config : Config) (sources : List DeclarationSource)
      (sink : Sink (StateM σ)) (s : σ) (e : Ending σ),
      (Run.ofSourcesWith layout config sources).Ends sink s e →
      (∃ report, e.result = .ok report) ∧
        ∀ d ∈ e.reported, d.template ≠ "The $ could not be generated: $" := by
  refine ⟨fun _ _ _ _ built generous => Generation.succeeds_of_ofDeclaration built generous,
    fun σ layout config sources sink s e ended => ⟨?_, fun d member => ?_⟩⟩
  · obtain ⟨_, _, _, records, known⟩ := Run.explained_of_ends ended
    exact ⟨_, known.result⟩
  · obtain ⟨j, -, said, inside⟩ := Run.exists_job_of_mem_reported ended member
    rcases Run.mem_reportsFor (Run.isGenerous layout config sources) inside with
      checked | ⟨g, kind, rfl⟩ | ⟨a, e, rfl⟩
    · exact checked.1.template_ne (by decide)
    · simp [Run.parseWarning]
    · simp [Run.refusal]

/-- A method at the widest cache that its model allows, under interceptors that allow more. -/
theorem generation_complete_counter :
    let counter : Declaration := ⟨"Counter", none, [], [.builder], [], [⟨"twice",
      [⟨"n", "i64", []⟩], some "i64", [.tag "positive"], ["cached"], some "n * 2"⟩], none⟩
    let source : DeclarationSource := ⟨none, default, [counter]⟩
    ∃ m, (Model.ofDeclaration (.ofDeclarations ⟨1, "Subclass"⟩ [counter]) source counter).value =
        some m ∧
      (∀ contracts naming runtimePath, Generation.Succeeds ⟨m, contracts, naming, runtimePath, 8⟩) ∧
      ∀ d ∈ ((Run.ofSources .standard [source]).inTurn (MemorySink.sink fun _ => none)
        .empty).reported, d.template ≠ "The $ could not be generated: $" := by
  intro counter source
  obtain ⟨m, built⟩ := Option.isSome_iff_exists.mp (show (Model.ofDeclaration
    (.ofDeclarations ⟨1, "Subclass"⟩ [counter]) source counter).value.isSome = true by
      decide +kernel)
  refine ⟨m, built, fun contracts naming path => ?_,
    (generation_complete.2 _ _ _ _ _ _ _ (.inTurn rfl)).2⟩
  exact generation_complete.1 _ _ _ ⟨m, contracts, naming, path, 8⟩ built (show 1 ≤ 8 by decide)

end Companion

/-! ### Messages of a run: none has a hole that is not filled, and each names its declaration -/

namespace Companion

/-- Whether a message is its template with each argument in its place: there are as many holes as
arguments, and the message is what the template says around them, with the arguments between. -/
structure Diagnostic.IsFilled (d : Diagnostic) : Prop where
  holes : Template.holes d.template = d.arguments.length
  pieces : (Template.piecesIn d.template.toList).length = d.arguments.length + 1
  message : d.message.toList =
    Template.interleave (Template.piecesIn d.template.toList) (d.arguments.map String.toList)

theorem Diagnostic.isFilled_of_holes {d : Diagnostic}
    (holes : Template.holes d.template = d.arguments.length) : d.IsFilled where
  holes := holes
  pieces := (Template.length_piecesIn _).trans (congrArg (· + 1) holes)
  message := by
    rw [message, Template.substitute, String.toList_ofList]
    exact Template.fill_eq_interleave (holes.trans (List.length_map _).symm)

theorem Diagnostic.OfCheck.isFilled {d : Diagnostic} (reported : d.OfCheck) : d.IsFilled := by
  apply isFilled_of_holes
  cases reported with
  -- A text of the user is never a template as it is.
  | model e l => exact Template.holes_escape _
  | finding f l =>
    cases f <;> simp [Finding.template, Finding.arguments, Template.holes, Template.holesIn]
  | _ => simp [Template.holes, Template.holesIn]

/-- An error is told in its own words, whatever dollar signs they contain. -/
theorem ModelError.message_reportAt (α : Type) (e : ModelError) (l : Location) :
    ∃ d, (e.reportAt l : Checked α).diagnostics = [d] ∧ d.message = e.message ∧ d.location = l :=
  ⟨_, rfl, Template.substitute_escape _, rfl⟩

/-- Everything reported on a declaration is filled, and names the declaration and its file. -/
def Concluded.IsTold (x : Concluded) : Prop :=
  ∀ d ∈ x.buffer.entries, d.IsFilled ∧ d.location.file = x.job.source.path ∧
    d.location.declaration = some x.job.declaration.name

theorem Job.sharesOwner_location {j : Job} {l : Location} (here : l.SharesOwner j.location) :
    l.file = j.source.path ∧ l.declaration = some j.declaration.name :=
  here.trans (Location.sharesOwner_place _ _)

/-- The step: whatever the sink says to the units of one declaration. -/
theorem Run.settles_isTold {r : Run} (generous : r.IsGenerous) : r.Settles Concluded.IsTold := by
  intro j said _ d member
  obtain ⟨checked, here⟩ | ⟨g, kind, rfl⟩ | ⟨a, e, rfl⟩ := mem_reportsFor generous member
  · exact ⟨checked.isFilled, Job.sharesOwner_location here⟩
  · have holes : Template.holes (parseWarning j g kind).template =
        (parseWarning j g kind).arguments.length := by
      simp [parseWarning, Template.holes, Template.holesIn]
    exact ⟨Diagnostic.isFilled_of_holes holes, Job.sharesOwner_location (Location.sharesOwner_refl _)⟩
  · have holes : Template.holes (refusal j.location a e).template =
        (refusal j.location a e).arguments.length := by
      simp [refusal, Template.holes, Template.holesIn]
    exact ⟨Diagnostic.isFilled_of_holes holes, Job.sharesOwner_location (Location.sharesOwner_refl _)⟩

/-- Whatever the configuration, the declarations, the sink and the order in which workers take
turns: everything reported on a declaration has an argument for each hole, in its place, and names
the declaration and its file. What is wrong with a declaration is told in its own words. -/
theorem run_messagesFilled {σ : Type} (layout : String → String) (config : Config)
    (sources : List DeclarationSource) (sink : Sink (StateM σ)) (s : σ) :
    (∀ e, (Run.ofSourcesWith layout config sources).Ends sink.recorded (s, []) e →
      e.Concludes Concluded.IsTold (Job.ofSources sources)) ∧
    ∀ (α : Type) (e : ModelError) (l : Location),
      ∃ d, (e.reportAt l : Checked α).diagnostics = [d] ∧ d.message = e.message := by
  refine ⟨fun e ended => ?_, fun α e l => ?_⟩
  · obtain ⟨generated, flushed, inOrder, records, known⟩ := Run.explained_of_ends ended
    exact known.concludes (Run.settles_isTold (Run.isGenerous layout config sources))
  · obtain ⟨d, reported, same, -⟩ := ModelError.message_reportAt α e l
    exact ⟨d, reported, same⟩

/-- A name that is none is quoted with its dollar sign. -/
theorem messagesFilled_dollar :
    let sources : List DeclarationSource :=
      [⟨some "pay.yaml", default, [⟨"Pay$", none, [], [.builder], [], [], none⟩]⟩]
    ((Run.ofSources .standard sources).inTurn (MemorySink.sink fun _ => none).recorded
        (.empty, [])).Concludes Concluded.IsTold (Job.ofSources sources) ∧
      ∃ d, ((ModelError.invalidName "Pay$").reportAt default : Checked Unit).diagnostics = [d] ∧
        d.message = "`Pay$` is not a valid declaration name" := by
  intro sources
  have told := run_messagesFilled id .standard sources (MemorySink.sink fun _ => none) .empty
  obtain ⟨d, reported, same⟩ := told.2 Unit (.invalidName "Pay$") default
  exact ⟨told.1 _ (.inTurn rfl), d, reported, same.trans (by decide)⟩

end Companion

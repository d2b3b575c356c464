import Companion.Proofs.Generate.Completeness
import Companion.Proofs.Generate.Outcomes

/-! What a run says of units that do not parse.

The checks of a declaration look at each of its fragments alone. What a unit makes of them is looked
at only when it is finished, and a unit that does not parse is written all the same.
-/

set_option autoImplicit false

namespace Companion

/-- A report on a unit that does not parse. -/
def Diagnostic.IsParseWarning (d : Diagnostic) : Prop :=
  d.template = "The generated $ does not parse and is written unformatted: $"

/-- Nothing is wrong with a declaration, as far as its own checks say. -/
def Concluded.IsFaultless (x : Concluded) : Prop :=
  ∀ d ∈ x.buffer.entries, d.severity = .info ∨ d.IsParseWarning

namespace Run

variable {r : Run} {j : Job} {g : Generation} {said : List (Except String Unit)}

/-- A unit as it is written: laid out if it parses and this is wanted, and as it is generated
otherwise, below the lines that say where it comes from. -/
def writtenText (r : Run) (j : Job) (g : Generation) (kind : ArtifactKind) : String :=
  let code := g.code kind
  let body := if Code.isFile code && r.config.autoFormat then r.layout code else code
  if r.config.provenance then Code.withHeader (provenance j g.model kind) body else body

theorem value_finishText (r : Run) (j : Job) (g : Generation) (kind : ArtifactKind) :
    (r.finishText j g kind (g.code kind)).value = some (r.writtenText j g kind) := by
  rw [finishText, Checked.value_noted, writtenText, Code.checkedUnit?]
  cases Code.isFile (g.code kind) <;> rfl

/-- What became of a generated declaration: every unit was handed over, whether it parses or not,
and all that is reported besides what its checks say is one warning on each unit that does not. -/
structure TellsUnparsed (r : Run) (g : Generation) (x : Concluded) : Prop where
  known : (r.generation x.job).value = some g
  reported : x.buffer.entries =
    (r.generation x.job).diagnostics ++ parseWarnings x.job g x.job.declaration.artifacts
  handed : x.attempts = x.job.declaration.artifacts.map fun kind =>
    ⟨r.config.naming.fileName x.job.declaration.name kind, r.writtenText x.job g kind, true⟩
  warned_iff : (∃ d ∈ x.buffer.entries, d.IsParseWarning) ↔
    ∃ kind ∈ x.job.declaration.artifacts, Code.isFile (g.code kind) = false
  parses_iff : x.IsFaultless →
    ((∀ kind ∈ x.job.declaration.artifacts, Code.isFile (g.code kind) = true) ↔
      ∀ d ∈ x.buffer.entries, d.severity = .info)

/-! ### Units that were all written -/

/-- A sink that took every unit was handed each of them, and nothing is said of any. -/
theorem taken_of_isWritten {units : List Artifact} (size : said.length = units.length)
    (written : ∀ a ∈ recordsOf units said, a.isWritten = true) (l : Location) :
    attemptsOf units said = units.map (fun a => ⟨a.fileName, a.state.content, true⟩) ∧
      (refusals l units said).entries = [] := by
  induction units generalizing said with
  | nil => exact ⟨by simp [attemptsOf], rfl⟩
  | cons a units ih =>
    cases said with
    | nil => cases size
    | cons answer said =>
      obtain ⟨first, rest⟩ := List.forall_mem_cons.mp written
      obtain ⟨attempts, quiet⟩ := ih (by simpa using size) rest
      cases answer with
      | error reason => cases first
      | ok => exact ⟨congrArg (List.cons _) attempts, quiet⟩

/-- A declaration is generated only if nothing failed it and the sink took all of its units. -/
theorem written_of_generated (generated : (r.recordFor j said).outcome = .generated) :
    (r.prepared j).isFailed = false ∧
      ∀ a ∈ recordsOf (r.unitsOf j) said, a.isWritten = true := by
  unfold recordFor at generated
  split at generated
  · cases generated
  · next fine =>
    exact ⟨by simpa using fine, (outcome_settle j _).2.1.mp generated⟩

/-- The units of a declaration that did not fail, in order. -/
theorem attempts_of_generation (generous : r.IsGenerous) (known : (r.generation j).value = some g)
    (fine : (r.prepared j).isFailed = false) :
    (r.unitsOf j).map (fun a => (⟨a.fileName, a.state.content, true⟩ : Attempt)) =
      j.declaration.artifacts.map fun kind =>
        ⟨r.config.naming.fileName j.declaration.name kind, r.writtenText j g kind, true⟩ := by
  rw [← kinds_unitsOf fine, List.map_map]
  refine List.map_congr_left fun a member => ?_
  obtain ⟨-, g', known', unit⟩ := unitsOf_spec member
  cases known.symm.trans known'
  obtain ⟨code, text, generated, finished, filled⟩ := unit.filled
  have complete := (succeeds_of_generation generous known).unit_eq a.kind
  cases generated.symm.trans complete
  cases finished.symm.trans (r.value_finishText j g a.kind)
  rw [Function.comp_apply, filled, unit.fileName, ArtifactState.content]

/-! ### What is reported -/

theorem mem_parseWarnings {kinds : List ArtifactKind} {d : Diagnostic} :
    d ∈ parseWarnings j g kinds ↔
      ∃ kind ∈ kinds, Code.isFile (g.code kind) = false ∧ d = parseWarning j g kind := by
  simp only [parseWarnings, List.mem_map, List.mem_filter, Bool.not_eq_true', and_assoc,
    @eq_comm _ d]

theorem isParseWarning_parseWarning (j : Job) (g : Generation) (kind : ArtifactKind) :
    (parseWarning j g kind).IsParseWarning := rfl

/-- Where checks and units are all that is reported on, what is said of units can be told. -/
theorem exists_isParseWarning_iff {ds : Diagnostics} (kinds : List ArtifactKind)
    (checks : ∀ d ∈ ds, d.OfCheck) :
    (∃ d ∈ ds ++ parseWarnings j g kinds, d.IsParseWarning) ↔
      ∃ kind ∈ kinds, Code.isFile (g.code kind) = false := by
  constructor
  · rintro ⟨d, member, warns⟩
    rcases List.mem_append.mp member with check | unparsed
    · exact absurd warns ((checks d check).template_ne (by decide))
    · obtain ⟨kind, listed, fails, -⟩ := mem_parseWarnings.mp unparsed
      exact ⟨kind, listed, fails⟩
  · rintro ⟨kind, listed, fails⟩
    exact ⟨_, List.mem_append_right _ (mem_parseWarnings.mpr ⟨kind, listed, fails, rfl⟩),
      isParseWarning_parseWarning ..⟩

/-- The step: what is said of one declaration tells which of its units do not parse. -/
theorem settles_tellsUnparsed (generous : r.IsGenerous) :
    r.Settles fun x => x.record.outcome = .generated → ∃ g, r.TellsUnparsed g x := by
  intro j said size generated
  obtain ⟨fine, written⟩ := written_of_generated generated
  obtain ⟨failed, diagnostics⟩ := prepared_of_isGenerous generous j
  obtain ⟨g, known⟩ : ∃ g, (r.generation j).value = some g := by
    rw [failed, Checked.isFailed, Checked.failed_eq] at fine
    exact Option.isSome_iff_exists.mp (by simpa using fine)
  obtain ⟨attempts, quiet⟩ := taken_of_isWritten size written j.location
  have artifacts : g.model.artifacts = j.declaration.artifacts := by
    obtain ⟨-, built, -⟩ := model_of_generation known
    exact (Model.isOf_of_ofDeclaration built).artifacts
  have reported : (r.concluded j said).buffer.entries =
      (r.generation j).diagnostics ++ parseWarnings j g j.declaration.artifacts := by
    change (r.prepared j).diagnostics ++ (refusals j.location (r.unitsOf j) said).entries = _
    rw [quiet, List.append_nil, diagnostics, known, Option.elim_some, artifacts]
  have warned := exists_isParseWarning_iff (j := j) (g := g) j.declaration.artifacts
    fun d member => (r.reports_generation j d member).1
  refine ⟨g, known, reported, attempts.trans (attempts_of_generation generous known fine),
    by rw [reported]; exact warned, fun faultless => ⟨fun parse d member => ?_, ?_⟩⟩
  · refine (faultless d member).resolve_right fun warns => ?_
    rw [reported] at member
    obtain ⟨kind, listed, fails⟩ := warned.mp ⟨d, member, warns⟩
    cases fails.symm.trans (parse kind listed)
  · intro quiet kind listed
    by_contra fails
    -- The warning on a unit that fails is no mere information.
    have member : parseWarning j g kind ∈ (r.concluded j said).buffer.entries := by
      rw [reported]
      exact List.mem_append_right _
        (mem_parseWarnings.mpr ⟨kind, listed, Bool.eq_false_of_not_eq_true fails, rfl⟩)
    cases quiet _ member

end Run

variable {σ : Type}

/-- Whatever the configuration, the declarations, the sink and the order in which workers take
turns: of a declaration that is generated, all units are handed over as they are generated, and what
is reported besides what its own checks say is one warning on each unit that does not parse. Where
the checks find no fault, the units all parse exactly if nothing but information is reported; it
does not follow from the checks. -/
theorem run_tellsUnparsed (layout : String → String) (config : Config)
    (sources : List DeclarationSource) (sink : Sink (StateM σ)) (s : σ)
    (e : Ending (σ × List Attempt))
    (ended : (Run.ofSourcesWith layout config sources).Ends sink.recorded (s, []) e) :
    e.Concludes (fun x => x.record.outcome = .generated →
        ∃ g, (Run.ofSourcesWith layout config sources).TellsUnparsed g x)
      (Job.ofSources sources) := by
  obtain ⟨generated, flushed, inOrder, records, known⟩ := Run.explained_of_ends ended
  exact known.concludes (Run.settles_tellsUnparsed (Run.isGenerous layout config sources))

/-- A default that ends in a comment is an expression, so that the checks find no fault with it. The
comment takes the rest of the line with it that the default is put into. -/
theorem tellsUnparsed_commented :
    let point : Declaration := ⟨"Point", none, [], [.subclass],
      [⟨none, some "step", "i64", some "1 // one", none, [], none⟩], [], none⟩
    let sources : List DeclarationSource := [⟨none, default, [point]⟩]
    let run := Run.ofSources .standard sources
    (run.inTurn (MemorySink.sink fun _ => none).recorded (.empty, [])).Concludes
        (fun x => x.record.outcome = .generated → ∃ g, run.TellsUnparsed g x)
        (Job.ofSources sources) ∧
      (∀ j ∈ run.jobs, (run.generation j).value.isSome = true ∧
        (run.generation j).diagnostics = []) ∧
      Code.isExpr "1 // one" = true ∧
      Code.isBlock "\x7b let step: i64 = step.unwrap_or_else(|| 1 // one); \x7d" = false :=
  ⟨run_tellsUnparsed id .standard _ _ _ _ (.inTurn rfl), by decide +kernel, by decide +kernel,
    by decide +kernel⟩

end Companion

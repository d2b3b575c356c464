import Companion.Proofs.Generate.Delivery
import Companion.Proofs.Generate.Outcomes
import Companion.Proofs.Generate.Schedules
import Companion.Proofs.Model.Batch
import Mathlib.Data.List.Forall2

/-! What the report of a run says of its declarations.

There is a record for each job, in order. A name has one record at most that lists units.
-/

set_option autoImplicit false

/-! ### Which declaration of a name is processed

It is the first one, and the one that the batch knows by the name. All later ones fail.
-/

namespace Companion

namespace Job

theorem isDuplicate_of_seen {seen : List String} {name : String} (known : name ∈ seen)
    (ds : List (DeclarationSource × Declaration)) :
    ∀ j ∈ (mark seen ds).filter (·.declaration.name == name), j.isDuplicate = true := by
  induction ds generalizing seen with
  | nil => simp [mark]
  | cons d ds ih =>
    intro j member
    obtain ⟨listed, named⟩ := List.mem_filter.mp member
    rcases List.mem_cons.mp listed with rfl | later
    · have same : d.2.name = name := beq_iff_eq.mp named
      simpa [same] using known
    · exact ih (List.mem_cons_of_mem _ known) j (List.mem_filter.mpr ⟨later, named⟩)

/-- Only the first declaration of a name is no duplicate. -/
theorem isDuplicate_of_fresh {seen : List String} {name : String} (fresh : name ∉ seen)
    {ds : List (DeclarationSource × Declaration)} {first : Job} {later : List Job}
    (found : (mark seen ds).filter (·.declaration.name == name) = first :: later) :
    first.isDuplicate = false ∧ ∀ j ∈ later, j.isDuplicate = true := by
  induction ds generalizing seen with
  | nil => cases found
  | cons d ds ih =>
    rw [mark, List.filter_cons] at found
    split at found
    · next named =>
      rw [List.cons.injEq] at found
      obtain ⟨rfl, rfl⟩ := found
      have same : d.2.name = name := beq_iff_eq.mp named
      refine ⟨by simpa [same] using fresh, isDuplicate_of_seen ?_ ds⟩
      rw [same]
      exact List.mem_cons_self ..
    · next other =>
      refine ih ?_ found
      rw [List.mem_cons, not_or]
      exact ⟨fun same => other (beq_iff_eq.mpr same.symm), fresh⟩

end Job

namespace Run

/-- The batch knows a declaration by its name that is the first one of the jobs, and no other job of
the name is processed. -/
def IndexesFirst (r : Run) : Prop :=
  ∀ name, match r.jobs.filter (·.declaration.name == name) with
    | [] => r.batch.find? name = none
    | first :: later => first.isDuplicate = false ∧
      r.batch.find? name = some (.ofDeclaration first.declaration) ∧
      ∀ j ∈ later, j.isDuplicate = true

theorem indexesFirst (layout : String → String) (config : Config)
    (sources : List DeclarationSource) : (ofSourcesWith layout config sources).IndexesFirst := by
  intro name
  have entry : (ofSourcesWith layout config sources).batch.find? name =
      (((Job.ofSources sources).filter (·.declaration.name == name)).head?.map
        (·.declaration)).map Batch.Entry.ofDeclaration := by
    rw [List.head?_filter]
    change (Batch.ofDeclarations _ ((Job.ofSources sources).map (·.declaration))).find? name = _
    rw [Batch.find?_ofDeclarations, List.find?_map]
    rfl
  change match (Job.ofSources sources).filter _ with | [] => _ | first :: later => _
  split
  · next none => rw [entry, none, List.head?_nil]; rfl
  · next first later found =>
    obtain ⟨fresh, repeated⟩ := Job.isDuplicate_of_fresh List.not_mem_nil found
    rw [entry, found]
    exact ⟨fresh, rfl, repeated⟩

variable {r : Run} {j : Job} {name : String}

/-- A declaration that is no duplicate is the first of its name. -/
theorem IndexesFirst.exists_later (indexes : r.IndexesFirst) (member : j ∈ r.jobs)
    (fresh : j.isDuplicate = false) :
    ∃ later, r.jobs.filter (·.declaration.name == j.declaration.name) = j :: later := by
  have listed : j ∈ r.jobs.filter (·.declaration.name == j.declaration.name) :=
    List.mem_filter.mpr ⟨member, beq_self_eq_true _⟩
  have spec := indexes j.declaration.name
  split at spec
  · next none => rw [none] at listed; cases listed
  · next first later found =>
    rw [found] at listed
    rcases List.mem_cons.mp listed with rfl | repeated
    · exact ⟨later, found⟩
    · cases fresh.symm.trans (spec.2.2 j repeated)

theorem IndexesFirst.job_eq (indexes : r.IndexesFirst) {j' : Job} (member : j ∈ r.jobs)
    (member' : j' ∈ r.jobs) (fresh : j.isDuplicate = false) (fresh' : j'.isDuplicate = false)
    (same : j.declaration.name = j'.declaration.name) : j = j' := by
  obtain ⟨later, found⟩ := indexes.exists_later member fresh
  obtain ⟨later', found'⟩ := indexes.exists_later member' fresh'
  rw [same] at found
  exact (List.cons.inj (found.symm.trans found')).1

theorem IndexesFirst.find? (indexes : r.IndexesFirst) (member : j ∈ r.jobs)
    (fresh : j.isDuplicate = false) :
    r.batch.find? j.declaration.name = some (.ofDeclaration j.declaration) := by
  obtain ⟨later, found⟩ := indexes.exists_later member fresh
  have spec := indexes j.declaration.name
  rw [found] at spec
  exact spec.2.1

theorem IndexesFirst.exists_job (indexes : r.IndexesFirst) {entry : Batch.Entry}
    (known : r.batch.find? name = some entry) :
    ∃ j ∈ r.jobs, j.isDuplicate = false ∧ j.declaration.name = name ∧
      entry = .ofDeclaration j.declaration := by
  have spec := indexes name
  split at spec
  · cases known.symm.trans spec
  · next first later found =>
    have listed : first ∈ r.jobs.filter (·.declaration.name == name) := by
      rw [found]
      exact List.mem_cons_self ..
    obtain ⟨member, named⟩ := List.mem_filter.mp listed
    exact ⟨first, member, spec.1, beq_iff_eq.mp named,
      Option.some.inj (known.symm.trans spec.2.1)⟩

end Run

/-! ### What the report says -/

open Run

/-- The outcome of a declaration tells what the sink said to its units. -/
structure DeclarationRecord.IsSettled (d : DeclarationRecord) : Prop where
  failed : d.outcome = .failed → d.artifacts = []
  generated : d.outcome = .generated → d.artifacts ≠ [] ∧ ∀ a ∈ d.artifacts, a.isWritten = true
  incomplete : d.outcome = .incomplete → ∃ a ∈ d.artifacts, a.isWritten = false

/-- A report on jobs. -/
structure Report.Settles (report : Report) (jobs : List Job) : Prop where
  inOrder : report.declarations.map (fun d => (d.declaration, d.sourceFile)) =
    jobs.map fun j => (j.declaration.name, j.source.path)
  settled : ∀ d ∈ report.declarations, d.IsSettled
  once : report.declarations.Pairwise fun d later =>
    later.declaration = d.declaration → later.artifacts = []

/-- Whatever is asked for, there is something to generate. -/
theorem Declaration.exists_gets (d : Declaration) : ∃ kind, d.Gets kind := by
  unfold Gets requested
  cases asked : d.generate with
  | nil => exact ⟨.subclass, .subclass, by decide, .refl⟩
  | cons kind kinds => exact ⟨kind, kind, by simp, .refl⟩

/-- Later jobs of a name are duplicates. -/
theorem Job.pairwise_mark (seen : List String) (ds : List (DeclarationSource × Declaration)) :
    (mark seen ds).Pairwise fun j later =>
      later.declaration.name = j.declaration.name → later.isDuplicate = true := by
  induction ds generalizing seen with
  | nil => exact List.Pairwise.nil
  | cons d ds ih =>
    refine List.pairwise_cons.mpr ⟨fun later member same => ?_, ih _⟩
    exact isDuplicate_of_seen (List.mem_cons_self ..) ds later
      (List.mem_filter.mpr ⟨member, beq_iff_eq.mpr same⟩)

namespace Run

variable {σ : Type} {r : Run} {sink : Sink (StateM σ)} {s : σ}

theorem isSettled_recordFor {j : Job} {said : List (Except String Unit)}
    (size : said.length = (r.unitsOf j).length) : (r.recordFor j said).IsSettled := by
  have whole := settles_allOrNothing r j said size
  refine ⟨fun failed => (whole.nothing failed).1, fun generated => ?_,
    fun incomplete => (whole.incomplete_iff.mp incomplete).2⟩
  obtain ⟨fine, written⟩ := whole.generated_iff.mp generated
  obtain ⟨kind, gets⟩ := j.declaration.exists_gets
  have listed := (whole.everything fine kind).mpr gets
  exact ⟨List.ne_nil_of_mem (List.mem_map.mp listed).choose_spec.1, written⟩

theorem artifacts_of_isDuplicate {j : Job} (repeated : j.isDuplicate = true)
    (said : List (Except String Unit)) : (r.recordFor j said).artifacts = [] := by
  refine List.eq_nil_iff_forall_not_mem.mpr fun a member => ?_
  obtain ⟨unit, inside, -⟩ := exists_unit_of_mem_artifacts member
  obtain ⟨-, g, known, -⟩ := unitsOf_spec inside
  cases (model_of_generation known).1.symm.trans repeated

theorem sourceFile_recordFor (r : Run) (j : Job) (said : List (Except String Unit)) :
    (r.recordFor j said).sourceFile = j.source.path := by
  unfold recordFor
  split <;> rfl

/-- Records of jobs, one after the other, as they follow from what a sink said to the units. -/
def AreRecords (r : Run) : List Job → List DeclarationRecord → Prop :=
  List.Forall₂ fun j d => ∃ said, said.length = (r.unitsOf j).length ∧ d = r.recordFor j said

theorem areRecords_report {e : Ending σ} {generated flushed inOrder : List Processed}
    {records : List DeclarationRecord} {report : Report}
    (known : e.Explained r sink s generated flushed inOrder records)
    (reported : e.result = .ok report) : r.AreRecords r.jobs report.declarations := by
  cases known.result.symm.trans reported
  have size : r.jobs.length = records.length := by
    have together := congrArg List.length known.recorded
    rwa [List.length_map, List.length_map, ← List.length_map (·.job), known.jobs] at together
  exact List.forall₂_iff_zip.mpr ⟨size, known.exists_said⟩

theorem artifacts_of_areRecords {jobs : List Job} {records : List DeclarationRecord} {name : String}
    (known : r.AreRecords jobs records)
    (repeated : ∀ j ∈ jobs, j.declaration.name = name → j.isDuplicate = true) :
    ∀ d ∈ records, d.declaration = name → d.artifacts = [] := by
  induction known with
  | nil => exact nofun
  | cons here _ ih =>
    obtain ⟨said, -, rfl⟩ := here
    obtain ⟨first, others⟩ := List.forall_mem_cons.mp repeated
    refine List.forall_mem_cons.mpr ⟨fun named => ?_, ih others⟩
    exact artifacts_of_isDuplicate (first (declaration_recordFor .. ▸ named)) said

theorem settles_of_areRecords {jobs : List Job} {records : List DeclarationRecord}
    (known : r.AreRecords jobs records)
    (first : jobs.Pairwise fun j later =>
      later.declaration.name = j.declaration.name → later.isDuplicate = true) :
    (Report.mk records).Settles jobs := by
  induction known with
  | nil => exact ⟨rfl, nofun, .nil⟩
  | @cons j d jobs records here others ih =>
    obtain ⟨said, size, rfl⟩ := here
    obtain ⟨repeated, first⟩ := List.pairwise_cons.mp first
    obtain ⟨inOrder, settled, once⟩ := ih first
    have name := r.declaration_recordFor j said
    refine ⟨?_, List.forall_mem_cons.mpr ⟨isSettled_recordFor size, settled⟩,
      List.pairwise_cons.mpr ⟨fun later member => ?_, once⟩⟩
    · rw [List.map_cons, List.map_cons, name, sourceFile_recordFor, inOrder]
    · rw [name]
      exact artifacts_of_areRecords others repeated later member

/-- The report of a run settles its jobs. -/
theorem settles_report {layout : String → String} {config : Config}
    {sources : List DeclarationSource} {e : Ending σ} {report : Report}
    (ended : (ofSourcesWith layout config sources).Ends sink s e)
    (reported : e.result = .ok report) : report.Settles (Job.ofSources sources) := by
  obtain ⟨generated, flushed, inOrder, records, known⟩ := explained_of_ends ended
  exact settles_of_areRecords (areRecords_report known reported) (Job.pairwise_mark [] _)

theorem settles_inTurn {layout : String → String} {config : Config}
    {sources : List DeclarationSource} {report : Report}
    (reported : ((ofSourcesWith layout config sources).inTurn sink s).result = .ok report) :
    report.Settles (Job.ofSources sources) := by
  obtain ⟨inOrder, records, known⟩ := (ofSourcesWith layout config sources).inTurn_explained sink s
  exact settles_of_areRecords (areRecords_report known reported) (Job.pairwise_mark [] _)

end Run

end Companion

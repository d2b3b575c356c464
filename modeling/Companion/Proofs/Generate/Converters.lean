import Companion.Proofs.Declaration.Canonical
import Companion.Proofs.Generate.Endings
import Companion.Proofs.Generate.Records
import Companion.Proofs.Model.Cycles

/-! What a converter can rely on when it is handed to a sink.

It encodes leaves itself and leaves the declarations that it holds to their converters, none of
which comes back to it.
-/

set_option autoImplicit false

namespace Companion.Run

variable {σ : Type} {r : Run} {j : Job} {m : Model}

/-- A declaration that has a converter holds the next one. -/
def Calls (r : Run) (j next : Job) : Prop :=
  j ∈ r.jobs ∧ j.isDuplicate = false ∧ j.declaration.Gets .converter ∧
    r.batch.Holds j.declaration next.declaration.name

/-- Later declarations of a name fail without being looked at. -/
def RefusesDuplicates (r : Run) (sink : Sink (StateM σ)) : Prop :=
  ∀ j ∈ r.jobs, j.isDuplicate = true → ∀ s, (r.process sink j).run s =
    ((.ok (record j .failed []), ⟨[⟨.error,
      Template.escape (ModelError.duplicateDeclaration j.declaration.name).message, [],
      j.location⟩], true⟩), s)

/-- The graph leads from a model with a converter to what its fields hold, in their order. -/
def GraphAgrees (r : Run) : Prop :=
  ∀ j ∈ r.jobs, j.isDuplicate = false → ∀ m,
    (Model.ofDeclaration r.batch j.source j.declaration).value = some m →
      m.generates .converter = true → r.graph.dependencies m.name =
        ((m.fields.filterMap (·.nested)).map (·.declaration)).eraseDups

/-- What the converter of a declaration needs is there. -/
structure ConverterStands (r : Run) (j : Job) (m : Model) : Prop where
  built : (Model.ofDeclaration r.batch j.source j.declaration).value = some m
  nested : ∀ f ∈ m.fields, ∀ nested, f.nested = some nested →
    ∃ next ∈ r.jobs, next.isDuplicate = false ∧ next.declaration.name = nested.declaration ∧
      next.declaration.Gets .converter
  leaves : ∀ f ∈ m.fields, f.nested = none → f.type.missingLeaf? r.batch.isDeclaredType = none
  wellFounded : ¬∃ chain : Nat → Job, chain 0 = j ∧ ∀ n, r.Calls (chain n) (chain (n + 1))

theorem hasConverter_of_gets (indexes : r.IndexesFirst) (member : j ∈ r.jobs)
    (fresh : j.isDuplicate = false) (converts : j.declaration.Gets .converter) :
    r.batch.hasConverter j.declaration.name = true :=
  Batch.hasConverter_iff.mpr
    ⟨_, indexes.find? member fresh, Declaration.mem_artifacts.mpr converts⟩

theorem graphAgrees (indexes : r.IndexesFirst) (graph : r.graph = .ofBatch r.batch) :
    r.GraphAgrees := by
  intro j member fresh m built converts
  have known := indexes.find? member fresh
  have gets : j.declaration.Gets .converter := by
    rw [Model.generates, (Model.isOf_of_ofDeclaration built).artifacts,
      List.contains_iff_mem] at converts
    exact Declaration.mem_artifacts.mp converts
  rw [graph, (Model.isOf_of_ofDeclaration built).name, DependencyGraph.dependencies_ofBatch
    (hasConverter_of_gets indexes member fresh gets), Batch.converterDependencies_eq known,
    Model.nested_of_ofDeclaration built]

theorem refusesDuplicates (r : Run) (sink : Sink (StateM σ)) : r.RefusesDuplicates sink := by
  intro j _ repeated s
  have refused : r.generation j =
      (ModelError.duplicateDeclaration j.declaration.name).reportAt j.location := by
    simp only [generation, model, repeated, if_true]
    rfl
  simp only [process, prepare, refused]
  rfl

/-- A step of a chain is an edge of the graph. -/
theorem isNext_of_calls (indexes : r.IndexesFirst) (graph : r.graph = .ofBatch r.batch)
    {next : Job} (calls : r.Calls j next) :
    r.graph.IsNext next.declaration.name j.declaration.name := by
  obtain ⟨member, fresh, converts, holds⟩ := calls
  have known := indexes.find? member fresh
  rw [DependencyGraph.IsNext, graph, DependencyGraph.dependencies_ofBatch
    (hasConverter_of_gets indexes member fresh converts), Batch.converterDependencies_eq known,
    List.mem_eraseDups, List.mem_filterMap]
  exact Batch.holds_iff.mp holds

/-- A chain that goes on is a path of the graph that does. -/
theorem no_chain (indexes : r.IndexesFirst) (graph : r.graph = .ofBatch r.batch)
    (accessible : Acc r.graph.IsNext j.declaration.name) :
    ¬∃ chain : Nat → Job, chain 0 = j ∧ ∀ n, r.Calls (chain n) (chain (n + 1)) := by
  rintro ⟨chain, rfl, calls⟩
  exact not_acc_iff_exists_descending_chain.mpr
    ⟨fun n => (chain n).declaration.name, rfl, fun n => isNext_of_calls indexes graph (calls n)⟩
    accessible

/-- A converter that is there to be handed over stands. -/
theorem converterStands (indexes : r.IndexesFirst) (graph : r.graph = .ofBatch r.batch)
    {g : Generation} (known : (r.generation j).value = some g)
    (gets : j.declaration.Gets .converter) : r.ConverterStands j g.model := by
  obtain ⟨fresh, built, passed, -⟩ := model_of_generation known
  have encodes := fun f member => Model.encodes_of_checkEncoding
    (Model.encodings_of_ofDeclaration built (Declaration.generates_iff.mpr gets) f member)
  refine ⟨built, fun f member nested holds => ?_, fun f member => (encodes f member).2, ?_⟩
  · obtain ⟨entry, found, converts⟩ := Batch.hasConverter_iff.mp ((encodes f member).1 nested holds)
    obtain ⟨next, listed, first, named, rfl⟩ := indexes.exists_job found
    exact ⟨next, listed, first, named, Declaration.mem_artifacts.mp converts⟩
  · refine no_chain indexes graph ?_
    rw [checkCycle, if_pos, (Model.isOf_of_ofDeclaration built).name] at passed
    · split at passed
      · cases passed
      · next none => exact DependencyGraph.acc_of_cycleFrom?_eq_none none
    · rw [Model.generates, (Model.isOf_of_ofDeclaration built).artifacts, List.contains_iff_mem]
      exact Declaration.mem_artifacts.mpr gets

/-- Whatever the declarations, the configuration and the sink: the declaration that others see under
a name is the one that is processed, the graph of converters is that of the models, and a converter
that was handed to the sink has all it calls. -/
theorem converters_stand (layout : String → String) (config : Config)
    (sources : List DeclarationSource) (sink : Sink (StateM σ)) (s : σ) :
    (ofSourcesWith layout config sources).IndexesFirst ∧
      (ofSourcesWith layout config sources).RefusesDuplicates sink ∧
      (ofSourcesWith layout config sources).GraphAgrees ∧
      ∀ e report, (ofSourcesWith layout config sources).Ends sink s e → e.result = .ok report →
        ∀ j record, (j, record) ∈ (Job.ofSources sources).zip report.declarations →
          (∃ a ∈ record.artifacts, a.kind = .converter) →
            ∃ m, (ofSourcesWith layout config sources).ConverterStands j m := by
  have indexes := indexesFirst layout config sources
  refine ⟨indexes, refusesDuplicates _ _, graphAgrees indexes rfl, ?_⟩
  rintro e report ended result j record member ⟨a, listed, converter⟩
  obtain ⟨generated, flushed, inOrder, records, known⟩ := explained_of_ends ended
  cases known.result.symm.trans result
  obtain ⟨said, rfl⟩ := known.record_eq member
  obtain ⟨unit, inside, kind⟩ := exists_unit_of_mem_artifacts listed
  obtain ⟨requested, g, generation, -⟩ := unitsOf_spec inside
  rw [← kind, converter, Declaration.mem_artifacts] at requested
  exact ⟨g.model, converterStands indexes rfl generation requested⟩

end Companion.Run

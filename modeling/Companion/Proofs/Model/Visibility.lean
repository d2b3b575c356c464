import Companion.Contract.Table
import Companion.Model.Build
import Companion.Proofs.Model.Batch
import Companion.Proofs.Model.Hierarchy

/-! What a declaration becomes depends on a batch by what the batch knows under each name.

In what order a batch lists its declarations, which of them repeat a name, and all that they hold
besides supertypes, companions and member types makes no difference.
-/

set_option autoImplicit false

namespace Companion

/-! ### Supertypes -/

/-- Hierarchies that know the same supertypes. -/
def Hierarchy.Agrees (a b : Hierarchy) : Prop := ∀ name, a.supertypes? name = b.supertypes? name

namespace Hierarchy.Agrees

variable {a b : Hierarchy} (agree : a.Agrees b)

include agree

/-- The searches see other lists of names, but find the same. -/
theorem reaches_eq (start target : String) : a.reaches start target = b.reaches start target := by
  have steps : a.IsParent = b.IsParent := by
    funext name parent
    rw [IsParent, IsParent, parents, parents, agree]
  rw [Bool.eq_iff_iff, reaches_iff, reaches_iff, steps]

theorem assignability_eq (declared target : TypeRef) :
    declared.assignability target a = declared.assignability target b := by
  simp only [TypeRef.assignability, agree _, agree.reaches_eq]

end Hierarchy.Agrees

/-! ### Checks -/

theorem Validator.synthesize_congr {a b : Hierarchy} (agree : a.Agrees b) (v : Validator)
    (runtimePath : String) (e : Element) (argument : Option Argument) :
    v.synthesize ⟨a, runtimePath⟩ e argument = v.synthesize ⟨b, runtimePath⟩ e argument := by
  have findings : e.assignabilityFindings a = e.assignabilityFindings b := by
    funext argument
    unfold Element.assignabilityFindings
    simp only [agree.assignability_eq]
  unfold synthesize
  rw [findings]

theorem ContractTable.ofModel_congr {a b : Hierarchy} (agree : a.Agrees b) (runtimePath : String)
    (model : Model) : ofModel ⟨a, runtimePath⟩ model = ofModel ⟨b, runtimePath⟩ model := by
  have descriptors : checkDescriptor ⟨a, runtimePath⟩ = checkDescriptor ⟨b, runtimePath⟩ := by
    funext e l d
    unfold checkDescriptor Descriptor.synthesize
    simp only [Validator.synthesize_congr agree]
  unfold ofModel checkElement
  rw [descriptors]

/-! ### Declarations -/

/-- Batches that know the same under each name. -/
structure Batch.Agrees (a b : Batch) : Prop where
  options : a.options = b.options
  find?_eq : ∀ name, a.find? name = b.find? name

theorem nodup_eraseDups {α : Type} [BEq α] [LawfulBEq α] : ∀ xs : List α, xs.eraseDups.Nodup
  | [] => List.nodup_nil
  | x :: xs => by
    rw [List.eraseDups_cons]
    refine List.nodup_cons.mpr ⟨fun repeated => ?_, nodup_eraseDups _⟩
    have kept := (List.mem_filter.mp (List.mem_eraseDups.mp repeated)).2
    simp at kept
termination_by xs => xs.length
decreasing_by
  have fewer := List.length_filter_le (fun other => !other == x) xs
  rw [List.length_cons]
  omega

theorem Batch.mem_names_iff {b : Batch} {name : String} :
    name ∈ b.entries.map Prod.fst ↔ b.contains name = true := by
  simp only [contains, find?, List.lookup_isSome_iff, List.mem_map, beq_iff_eq]
  exact exists_congr fun entry => and_congr_right fun _ => eq_comm

theorem Batch.supertypes?_hierarchy (b : Batch) (name : String) :
    b.hierarchy.supertypes? name = (b.find? name).map (·.supertypes) := by
  rw [Hierarchy.supertypes?, hierarchy, find?]
  induction b.entries with
  | nil => rfl
  | cons entry entries ih =>
    rw [List.map_cons, lookup_cons_eq, lookup_cons_eq, ih, apply_ite (Option.map _)]
    rfl

namespace Batch.Agrees

variable {a b : Batch} (agree : a.Agrees b)

include agree

theorem contains_eq : a.contains = b.contains := by
  funext name
  rw [contains, contains, agree.find?_eq]

theorem declarationOf?_eq : a.declarationOf? = b.declarationOf? := by
  funext t
  simp only [declarationOf?, agree.options, agree.contains_eq]

theorem isDeclaredType_eq : a.isDeclaredType = b.isDeclaredType := by
  funext t
  rw [isDeclaredType, isDeclaredType, agree.declarationOf?_eq]

theorem nested?_eq : a.nested? = b.nested? := by
  funext t
  simp only [nested?, agree.declarationOf?_eq]

theorem hasConverter_eq : a.hasConverter = b.hasConverter := by
  funext name
  rw [hasConverter, hasConverter, agree.find?_eq]

theorem converterDependencies_eq : a.converterDependencies = b.converterDependencies := by
  funext name
  simp only [converterDependencies, agree.find?_eq, agree.nested?_eq]

theorem hierarchy : a.hierarchy.Agrees b.hierarchy := by
  intro name
  rw [supertypes?_hierarchy, supertypes?_hierarchy, agree.find?_eq]

theorem ofDeclaration_eq : Model.ofDeclaration a = Model.ofDeclaration b := by
  have fields : Model.checkField a = Model.checkField b := by
    funext l member
    simp only [Model.checkField, agree.nested?_eq]
  have encodings : Model.checkEncoding a = Model.checkEncoding b := by
    funext f
    simp only [Model.checkEncoding, agree.isDeclaredType_eq, agree.hasConverter_eq]
  funext source d
  unfold Model.ofDeclaration Model.checkFields Model.checkMethods
  rw [fields, encodings, agree.options]

end Batch.Agrees

/-! ### Converters -/

namespace DependencyGraph

theorem dependencies_ofBatch_eq (b : Batch) (name : String) :
    (ofBatch b).dependencies name =
      if b.hasConverter name then b.converterDependencies name else [] := by
  split
  · next converts => exact dependencies_ofBatch converts
  · next plain =>
    have absent : (ofBatch b).edges.lookup name = none := by
      rw [Option.eq_none_iff_forall_ne_some]
      intro targets found
      obtain ⟨other, listed, same⟩ := List.mem_map.mp (mem_of_lookup_eq_some found)
      cases same
      exact plain (List.mem_filter.mp listed).2
    rw [dependencies, absent, Option.getD_none]

theorem length_edges_ofBatch {a b : Batch} (agree : a.Agrees b) :
    (ofBatch a).edges.length = (ofBatch b).edges.length := by
  have names : (a.entries.map Prod.fst).eraseDups.Perm (b.entries.map Prod.fst).eraseDups := by
    refine (List.perm_ext_iff_of_nodup (nodup_eraseDups _) (nodup_eraseDups _)).mpr fun name => ?_
    rw [List.mem_eraseDups, List.mem_eraseDups, Batch.mem_names_iff, Batch.mem_names_iff,
      agree.contains_eq]
  simp only [ofBatch, List.length_map, agree.hasConverter_eq]
  exact (names.filter _).length_eq

/-- A search looks at the graph only for the edges of a node. -/
theorem visit_congr {g h : DependencyGraph} (same : g.dependencies = h.dependencies) :
    g.visit = h.visit := by
  funext fuel
  induction fuel with
  | zero => rfl
  | succ fuel ih =>
    funext path done node
    simp only [visit, same, ih]

theorem cycleFrom?_ofBatch_congr {a b : Batch} (agree : a.Agrees b) :
    (ofBatch a).cycleFrom? = (ofBatch b).cycleFrom? := by
  have edges : (ofBatch a).dependencies = (ofBatch b).dependencies := by
    funext name
    rw [dependencies_ofBatch_eq, dependencies_ofBatch_eq, agree.hasConverter_eq,
      agree.converterDependencies_eq]
  funext start
  simp only [cycleFrom?, visit_congr edges, length_edges_ofBatch agree]

end DependencyGraph

end Companion

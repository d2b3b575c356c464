import Companion.Model.Batch
import Companion.Proofs.Text.Basic
import Companion.Proofs.Text.Dictionary

/-! What a batch and its graph of converters say of a declaration. -/

set_option autoImplicit false

namespace Companion

namespace Batch

/-- The first declaration of a name is the one that others see. -/
theorem find?_ofDeclarations (options : ModelOptions) (ds : List Declaration) (name : String) :
    (ofDeclarations options ds).find? name =
      (ds.find? fun d => d.name == name).map Entry.ofDeclaration := by
  induction ds with
  | nil => rfl
  | cons d ds ih =>
    have step : (ofDeclarations options (d :: ds)).find? name =
        if name = d.name then some (Entry.ofDeclaration d)
        else (ofDeclarations options ds).find? name := lookup_cons_eq ..
    rw [step, ih, List.find?_cons]
    by_cases same : d.name = name
    · rw [if_pos same.symm, beq_iff_eq.mpr same, Option.map_some]
    · rw [if_neg (Ne.symm same), beq_eq_false_iff_ne.mpr same]

theorem hasConverter_iff {b : Batch} {name : String} :
    b.hasConverter name = true ↔
      ∃ entry, b.find? name = some entry ∧ .converter ∈ entry.artifacts := by
  simp [hasConverter, Option.any_eq_true]

/-- A member of a declaration holds a declaration of the batch. -/
def Holds (b : Batch) (d : Declaration) (name : String) : Prop :=
  ∃ m ∈ d.members, ∃ t nested, TypeRef.parse m.type = .ok t ∧ b.nested? t = some nested ∧
    nested.declaration = name

/-- The declaration that a member of the type holds. -/
def heldBy (b : Batch) (text : String) : Option String :=
  match TypeRef.parse text with
  | .ok t => (b.nested? t).map (·.declaration)
  | .error _ => none

theorem converterDependencies_eq {b : Batch} {name : String} {d : Declaration}
    (known : b.find? name = some (Entry.ofDeclaration d)) :
    b.converterDependencies name =
      (d.members.filterMap fun m => b.heldBy m.type).eraseDups := by
  rw [converterDependencies, known]
  simp only [Entry.ofDeclaration, List.filterMap_map]
  rfl

theorem holds_iff {b : Batch} {d : Declaration} {name : String} :
    b.Holds d name ↔ ∃ m ∈ d.members, b.heldBy m.type = some name := by
  refine exists_congr fun m => and_congr_right fun _ => ?_
  unfold heldBy
  constructor
  · rintro ⟨t, nested, parsed, holds, same⟩
    rw [parsed]
    simp [holds, same]
  · intro held
    split at held
    · next t parsed =>
      obtain ⟨nested, holds, same⟩ := Option.map_eq_some_iff.mp held
      exact ⟨t, nested, parsed, holds, same⟩
    · cases held

/-- The type of a declaration is a plain path that ends in its name and the suffix. -/
theorem path_of_declarationOf? {b : Batch} {t : TypeRef} {name : String}
    (known : b.declarationOf? t = some name) :
    ∃ path, t = .path path [] ∧ Text.lastSegment path = name ++ b.options.subclassSuffix := by
  unfold declarationOf? at known
  split at known
  · next path =>
    obtain ⟨before, found, same⟩ := Option.bind_eq_some_iff.mp known
    split at same
    · cases same
      exact ⟨path, rfl, Text.eq_append_of_beforeSuffix? found⟩
    · cases same
  · cases known

/-- How a type holds what is held in it. -/
theorem heldType_cases (t : TypeRef) :
    (∃ content, t.optionContent? = some content ∧ heldType t = (content, .optional)) ∨
      (∃ list content, t = .path list [content] ∧ t.isNamed ["Vec"] = true ∧
        heldType t = (content, .list)) ∨
      heldType t = (t, .plain) := by
  unfold heldType
  split
  · next content optional => exact .inl ⟨content, optional, rfl⟩
  · split
    · split
      · next isVec => exact .inr (.inl ⟨_, _, rfl, isVec, rfl⟩)
      · exact .inr (.inr rfl)
    · exact .inr (.inr rfl)

/-- A field that holds a declaration is of its type, or an option or a list of it. -/
theorem type_of_nested? {b : Batch} {t : TypeRef} {nested : Nested}
    (holds : b.nested? t = some nested) : ∃ path,
      Text.lastSegment path = nested.declaration ++ b.options.subclassSuffix ∧
      match nested.shape with
      | .plain => t = .path path []
      | .optional => t.optionContent? = some (.path path [])
      | .list => ∃ list, t = .path list [.path path []] ∧ t.isNamed ["Vec"] = true := by
  have parts : (b.declarationOf? (heldType t).1).map (⟨·, (heldType t).2⟩) = some nested := holds
  rw [Option.map_eq_some_iff] at parts
  obtain ⟨name, known, rfl⟩ := parts
  obtain ⟨path, held, named⟩ := path_of_declarationOf? known
  refine ⟨path, named, ?_⟩
  rcases heldType_cases t with ⟨content, optional, same⟩ | ⟨list, content, rfl, isVec, same⟩ | same
  · rw [same] at held ⊢
    exact optional.trans (congrArg some held)
  · rw [same] at held ⊢
    cases held
    exact ⟨list, rfl, isVec⟩
  · rw [same] at held ⊢
    exact held

end Batch

namespace DependencyGraph

/-- A node of the graph is a declaration with a converter. -/
theorem dependencies_ofBatch {b : Batch} {name : String} (converts : b.hasConverter name = true) :
    (ofBatch b).dependencies name = b.converterDependencies name := by
  -- Names decide their targets, so any entry of a name is as good as the first.
  have lookup (names : List String) (member : name ∈ names) :
      (names.map fun name => (name, b.converterDependencies name)).lookup name =
        some (b.converterDependencies name) := by
    induction names with
    | nil => cases member
    | cons other names ih =>
      rw [List.map_cons, lookup_cons_eq]
      split
      · next same => rw [same]
      · next differ => exact ih (List.mem_of_ne_of_mem differ member)
  have listed : name ∈ (b.entries.map Prod.fst).eraseDups.filter b.hasConverter := by
    obtain ⟨entry, found, -⟩ := Batch.hasConverter_iff.mp converts
    rw [List.mem_filter, List.mem_eraseDups]
    exact ⟨List.mem_map.mpr ⟨_, mem_of_lookup_eq_some found, rfl⟩, converts⟩
  rw [dependencies, ofBatch, lookup _ listed, Option.getD_some]

end DependencyGraph

end Companion

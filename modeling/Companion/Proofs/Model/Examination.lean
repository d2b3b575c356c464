import Companion.Proofs.Diagnostic.Reports
import Companion.Proofs.Model.Methods
import Mathlib.Data.List.Forall2

/-! Declarations are examined to their ends.

Each member and each method is checked for itself, whatever is wrong with others, and where one of
them cannot be modelled its own check says so. What tells that a declaration has no model is an
error of a kind of its own: misuses are errors as well, but leave a model.
-/

set_option autoImplicit false

namespace Companion

/-- An error for which there is no model. -/
inductive Diagnostic.IsDeclarationError : Diagnostic → Prop where
  | model (e : ModelError) (l : Location) :
    IsDeclarationError ⟨.error, Template.escape e.message, [], l⟩
  | arity (limit method : String) (l : Location) :
    IsDeclarationError
      ⟨.error, "Cannot cache more than $ parameters (method: $).", [limit, method], l⟩

namespace Diagnostic

variable {d : Diagnostic}

/-- Of all errors with arguments, one alone leaves no model. -/
theorem not_isDeclarationError (given : d.arguments ≠ [])
    (other : d.template ≠ "Cannot cache more than $ parameters (method: $).") :
    ¬d.IsDeclarationError := by
  intro declared
  cases declared with
  | model e l => exact given rfl
  | arity limit method l => exact other rfl

end Diagnostic

open Checked

namespace Model

variable {batch : Batch} {source : DeclarationSource} {d : Declaration} {l : Location}
  {maxCacheArity : Nat}

/-! ### What fails says so -/

theorem tells_model {α : Type} {e : ModelError} :
    Tells Diagnostic.IsDeclarationError (e.reportAt l : Checked α) :=
  .failWith (.model e l)

theorem diagnostics_reportAt {α : Type} {e : ModelError} : (e.reportAt l : Checked α).diagnostics =
    [⟨.error, Template.escape e.message, [], l⟩] := rfl

theorem tells_usageError {template argument : String} {others : List String}
    (other : template ≠ "Cannot cache more than $ parameters (method: $).") :
    Tells Diagnostic.IsDeclarationError (.usageError l template (argument :: others)) :=
  .report (Diagnostic.not_isDeclarationError (List.cons_ne_nil argument others) other)

theorem tells_checkIdentifier {name : String} :
    Tells Diagnostic.IsDeclarationError (checkIdentifier l name) := by
  unfold checkIdentifier
  split
  · exact .ok
  · exact tells_model

theorem tells_checkType {text : String} :
    Tells Diagnostic.IsDeclarationError (checkType l text) := by
  unfold checkType
  split
  · exact .pure _
  · exact tells_model

theorem tells_checkExpression {what text : String} :
    Tells Diagnostic.IsDeclarationError (checkExpression l what text) := by
  unfold checkExpression
  split
  · exact .ok
  · exact tells_usageError (by simp)

theorem tells_checkValidators {specs : List ValidatorSpec} :
    Tells Diagnostic.IsDeclarationError (checkValidators l specs) := by
  apply Tells.allMap
  intro spec _
  unfold checkValidator
  split
  · exact .pure _
  · exact tells_model

theorem tells_checkNames {name : String} {accessor : Option String} :
    Tells Diagnostic.IsDeclarationError (checkNames l name accessor) := by
  unfold checkNames
  split
  · split
    · exact tells_checkIdentifier
    · exact .andThen tells_checkIdentifier fun _ _ => tells_checkIdentifier
  · exact tells_checkIdentifier

theorem tells_checkRole {name : String} {member : Declaration.Member} :
    Tells Diagnostic.IsDeclarationError (checkRole l name member) := by
  unfold checkRole
  split
  · exact tells_model
  · exact .map tells_checkExpression
  · exact .map tells_checkExpression
  · exact .pure _

theorem tells_checkField {member : Declaration.Member} :
    Tells Diagnostic.IsDeclarationError (checkField batch l member) := by
  unfold checkField
  split
  · exact tells_model
  · exact .seq (.seq (.seq (.map tells_checkNames) tells_checkType) tells_checkRole)
      tells_checkValidators

theorem tells_checkEncoding {f : Field} :
    Tells Diagnostic.IsDeclarationError (checkEncoding batch f) := by
  unfold checkEncoding
  split
  · split
    · exact tells_model
    · exact .ok
  · split
    · exact .ok
    · exact tells_model

theorem tells_checkParameter {method : String} {p : Declaration.Parameter} :
    Tells Diagnostic.IsDeclarationError (checkParameter l method p) :=
  .seq (.seq (.map tells_checkType) tells_checkIdentifier) tells_checkValidators

theorem tells_checkReturns {returns : Option String} :
    Tells Diagnostic.IsDeclarationError (checkReturns l returns) := by
  unfold checkReturns
  split
  · exact tells_checkType
  · exact .pure _

theorem tells_checkInterceptor {tag : String} :
    Tells Diagnostic.IsDeclarationError (checkInterceptor l tag) := by
  unfold checkInterceptor
  split
  · exact .pure _
  · exact tells_model

theorem tells_checkWeaving {m : Method} :
    Tells Diagnostic.IsDeclarationError (checkWeaving m) := by
  unfold checkWeaving
  split
  · split
    · exact tells_model
    · apply Tells.map
      unfold checkBody
      split
      · exact .ok
      · exact tells_usageError (by simp)
  · exact .pure _

/-- Of what can be wrong with a cache, too many parameters alone leave no method. -/
theorem tells_checkCaching {m : Method} :
    Tells Diagnostic.IsDeclarationError (checkCaching maxCacheArity m) := by
  unfold checkCaching
  split
  · exact .pure _
  · split
    · exact .failWith (.arity _ _ _)
    · split
      · exact .map (tells_usageError (by simp))
      · apply Tells.map
        apply Tells.allMap
        intro p _
        unfold checkKey
        split
        · exact .ok
        · exact tells_usageError (by simp)

theorem tells_checkMethod {method : Declaration.Method} :
    Tells Diagnostic.IsDeclarationError (checkMethod maxCacheArity l method) := by
  refine .andThen (.andThen ?_ fun m _ => tells_checkWeaving) fun m _ => tells_checkCaching
  exact .seq (.seq (.seq (.seq (.map tells_checkIdentifier)
    (.allMap fun _ _ => tells_checkParameter)) tells_checkReturns)
    (.allMap fun _ _ => tells_checkInterceptor)) tells_checkValidators

theorem tells_checkName {name : String} :
    Tells Diagnostic.IsDeclarationError (checkName l name) := by
  unfold checkName
  split
  · exact .ok
  · exact tells_model

theorem tells_reportImplied {kind : ArtifactKind} :
    Tells Diagnostic.IsDeclarationError (reportImplied l kind) :=
  .report (Diagnostic.not_isDeclarationError (List.cons_ne_nil _ _) (by simp))

theorem tells_ofDeclaration :
    Tells Diagnostic.IsDeclarationError (ofDeclaration batch source d) := by
  have fields : ∀ x ∈ checkFields batch source d, Tells Diagnostic.IsDeclarationError x :=
    forall_refuseRepeated (List.forall_mem_map.mpr fun _ _ => tells_checkField)
      fun _ told => .andThen told fun _ _ => tells_model
  refine .seq (.seq (.seq (.seq (.seq (.map tells_checkName) tells_checkType)
    (.allMap fun _ _ => tells_reportImplied)) (.all fields))
    (.allMap fun _ _ => tells_checkMethod)) (.all ?_)
  split
  · exact List.forall_mem_map.mpr fun _ _ => tells_checkEncoding
  · exact List.forall_mem_nil _

/-! ### What each part says for itself -/

/-- What a member comes to, whatever the others are. -/
def ownField (batch : Batch) (source : DeclarationSource) (d : Declaration)
    (m : Declaration.Member) : Checked Field :=
  checkField batch (memberLocation source d m) m

/-- What a method comes to, whatever the others are. -/
def ownMethod (batch : Batch) (source : DeclarationSource) (d : Declaration)
    (m : Declaration.Method) : Checked Method :=
  checkMethod batch.options.maxCacheArity (source.locateMember d.name m.name) m

def fieldNames (xs : List (Checked Field)) : List String := (successes xs).map (·.name)

/-- What is said of a field after its own check: that its name is one of an earlier field. -/
def repetition (earlier : List (Checked Field)) (x : Checked Field) : Diagnostics :=
  x.value.elim [] fun f =>
    if f.name ∈ fieldNames earlier then
      [⟨.error, Template.escape (ModelError.duplicateField f.name).message, [], f.location⟩]
    else []

/-- What all members have to say, each after those before it. -/
def memberDiagnostics (batch : Batch) (source : DeclarationSource) (d : Declaration) : Diagnostics :=
  d.members.zipIdx.flatMap fun (m, k) =>
    (ownField batch source d m).diagnostics ++
      repetition ((d.members.take k).map (ownField batch source d)) (ownField batch source d m)

theorem ownField_congr {other : Declaration} (same : other.name = d.name) :
    ownField batch source other = ownField batch source d := by
  funext m
  rw [ownField, ownField, memberLocation, memberLocation, same]

theorem ownMethod_congr {other : Declaration} (same : other.name = d.name) :
    ownMethod batch source other = ownMethod batch source d := by
  funext m
  rw [ownMethod, ownMethod, same]

theorem mem_fieldNames_concat {xs : List (Checked Field)} {x : Checked Field} {name : String} :
    name ∈ fieldNames (xs ++ [x]) ↔ name ∈ fieldNames xs ∨ x.value.map (·.name) = some name := by
  cases known : x.value <;> simp [fieldNames, successes, known, eq_comm]

/-- The step of the search for repetitions. The names that were seen are those of all fields so far,
refused or not. -/
theorem refuseRepeated_cons {seen : List String} {x : Checked Field} {others : List (Checked Field)}
    {earlier : List (Checked Field)} (tracked : ∀ name, name ∈ seen ↔ name ∈ fieldNames earlier) :
    ∃ y seen', refuseRepeated seen (x :: others) = y :: refuseRepeated seen' others ∧
      y.diagnostics = x.diagnostics ++ repetition earlier x ∧
      ∀ name, name ∈ seen' ↔ name ∈ fieldNames (earlier ++ [x]) := by
  rw [refuseRepeated]
  cases known : x.value with
  | none =>
    refine ⟨x, seen, rfl, ?_, fun name => ?_⟩
    · simp [repetition, known]
    · simp [mem_fieldNames_concat, known, tracked]
  | some f =>
    by_cases repeated : f.name ∈ seen
    · have among : f.name ∈ fieldNames earlier := (tracked f.name).mp repeated
      refine ⟨_, seen, if_pos (List.contains_iff_mem.mpr repeated), ?_, fun name => ?_⟩
      · simp [diagnostics_andThen, diagnostics_reportAt, repetition, known, among]
      · rw [mem_fieldNames_concat, tracked, known]
        exact (or_iff_left_of_imp fun same => Option.some.inj same ▸ among).symm
    · have fresh : ¬seen.contains f.name = true := fun found =>
        repeated (List.contains_iff_mem.mp found)
      refine ⟨x, f.name :: seen, if_neg fresh, ?_, fun name => ?_⟩
      · simp [repetition, known, ← tracked, repeated]
      · rw [mem_fieldNames_concat, List.mem_cons, tracked, known, or_comm]
        simp [eq_comm]

theorem diagnostics_refuseRepeated {seen : List String} {xs earlier : List (Checked Field)}
    (tracked : ∀ name, name ∈ seen ↔ name ∈ fieldNames earlier) :
    (refuseRepeated seen xs).flatMap diagnostics =
      (xs.zipIdx earlier.length).flatMap fun (x, k) =>
        x.diagnostics ++ repetition ((earlier ++ xs).take k) x := by
  induction xs generalizing seen earlier with
  | nil => rfl
  | cons x others ih =>
    obtain ⟨y, seen', same, said, tracked'⟩ := refuseRepeated_cons tracked
    have later := ih tracked'
    rw [List.length_append, List.length_singleton, List.append_assoc,
      List.singleton_append] at later
    rw [same, List.flatMap_cons, said, later, List.zipIdx_cons, List.flatMap_cons]
    congr 3
    exact List.take_left.symm

theorem diagnostics_checkFields :
    (checkFields batch source d).flatMap diagnostics = memberDiagnostics batch source d := by
  have tracked : ∀ name, name ∈ [] ↔ name ∈ fieldNames [] := by simp [fieldNames, successes]
  rw [checkFields, diagnostics_refuseRepeated tracked, memberDiagnostics, List.length_nil,
    List.zipIdx_map, List.flatMap_map]
  apply List.flatMap_congr
  intro entry _
  simp only [List.nil_append, ← List.map_take]
  rfl

/-- What is said of a declaration itself, before its parts are looked at. -/
def headDiagnostics (source : DeclarationSource) (d : Declaration) : Diagnostics :=
  (checkName (source.locate d.name) d.name).diagnostics ++
    (checkType (source.locate d.name) d.traitPath).diagnostics ++
      d.implied.flatMap fun kind => (reportImplied (source.locate d.name) kind).diagnostics

/-- What is said of the fields that there are where a converter has to encode them. -/
def encodingDiagnostics (batch : Batch) (source : DeclarationSource) (d : Declaration) :
    Diagnostics :=
  if d.generates .converter then
    (successes (checkFields batch source d)).flatMap fun f => (checkEncoding batch f).diagnostics
  else []

theorem diagnostics_ofDeclaration : (ofDeclaration batch source d).diagnostics =
    headDiagnostics source d ++ memberDiagnostics batch source d ++
      d.methods.flatMap (fun m => (ownMethod batch source d m).diagnostics) ++
        encodingDiagnostics batch source d := by
  have encodings : (if d.generates .converter then
      (successes (checkFields batch source d)).map (checkEncoding batch) else []).flatMap
        diagnostics = encodingDiagnostics batch source d := by
    unfold encodingDiagnostics
    split
    · exact List.flatMap_map ..
    · rfl
  simp only [ofDeclaration, diagnostics_seq, diagnostics_map, diagnostics_all, encodings,
    diagnostics_checkFields, checkMethods, List.flatMap_map]
  rfl

/-! ### All of it -/

theorem forall₂_of_map_eq {α β γ : Type} {f : α → γ} {g : β → γ} {xs : List α} {ys : List β}
    (same : xs.map f = ys.map g) : List.Forall₂ (fun x y => f x = g y) xs ys := by
  rw [← List.forall₂_eq_eq_eq, List.forall₂_map_left_iff, List.forall₂_map_right_iff] at same
  exact same

/-- What there is to see of a declaration once it has been examined. -/
structure Examined (batch : Batch) (source : DeclarationSource) (d : Declaration) : Prop where
  /-- What members and methods have to say is there as a whole, and in order. -/
  diagnostics : (ofDeclaration batch source d).diagnostics =
    headDiagnostics source d ++ memberDiagnostics batch source d ++
      d.methods.flatMap (fun m => (ownMethod batch source d m).diagnostics) ++
        encodingDiagnostics batch source d
  /-- Members and methods have the same to say in any declaration of that name. -/
  alone : ∀ other : Declaration, other.name = d.name →
    ownField batch source other = ownField batch source d ∧
      ownMethod batch source other = ownMethod batch source d
  member : ∀ m, (ownField batch source d m).value = none ↔
    ∃ e ∈ (ownField batch source d m).diagnostics, e.IsDeclarationError
  method : ∀ m, (ownMethod batch source d m).value = none ↔
    ∃ e ∈ (ownMethod batch source d m).diagnostics, e.IsDeclarationError
  isSome_iff : (ofDeclaration batch source d).value.isSome = true ↔
    ∀ e ∈ (ofDeclaration batch source d).diagnostics, ¬e.IsDeclarationError
  /-- A buffer that had not failed tells the same. -/
  isSome_iff_unfailed : ∀ b : DiagnosticBuffer, b.failed = false →
    ((ofDeclaration batch source d).value.isSome = true ↔
      (b.append (ofDeclaration batch source d).buffer).failed = false)
  fields : ∀ model, (ofDeclaration batch source d).value = some model →
    d.members.Forall₂ (fun m f => (ownField batch source d m).value = some f) model.fields
  methods : ∀ model, (ofDeclaration batch source d).value = some model →
    d.methods.Forall₂ (fun m f => (ownMethod batch source d m).value = some f) model.methods
  distinct : ∀ model, (ofDeclaration batch source d).value = some model →
    (model.fields.map (·.name)).Nodup

/-- Nothing that is wrong with a part of a declaration hides what is wrong with another, and what
has been found to be wrong is all that can stand between a declaration and its model. -/
theorem ofDeclaration_examined (batch : Batch) (source : DeclarationSource) (d : Declaration) :
    Examined batch source d where
  diagnostics := diagnostics_ofDeclaration
  alone other same := ⟨ownField_congr same, ownMethod_congr same⟩
  member _ := tells_checkField
  method _ := tells_checkMethod
  isSome_iff := by
    rw [← Option.ne_none_iff_isSome]
    refine (not_congr tells_ofDeclaration).trans ?_
    simp only [not_exists, not_and]
  isSome_iff_unfailed b unfailed := by
    rw [DiagnosticBuffer.failed_append, unfailed, (ofDeclaration batch source d).failed_eq]
    simp
  fields model built := by
    apply forall₂_of_map_eq
    rw [← values_of_refuseRepeated (fields_of_ofDeclaration built), List.map_map]
    rfl
  methods model built := by
    apply forall₂_of_map_eq
    rw [← methods_of_ofDeclaration built, checkMethods, List.map_map]
    rfl
  distinct model built := names_of_ofDeclaration built

end Model

end Companion

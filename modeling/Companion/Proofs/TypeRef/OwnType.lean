import Companion.Contract.Synthesis
import Companion.Proofs.TypeRef.Assignable

/-! Whether a type can stand for itself.

As a declared type a reference counts as what it refers to, as a target it does not. Nothing that
stands behind one reference is of the same form as the reference, which has no name either.
-/

set_option autoImplicit false

namespace Companion.TypeRef

open Relation

variable {t : TypeRef} {h : Hierarchy}

theorem dereferenced_of_not_reference (plain : t.isReference = false) : t.dereferenced = t := by
  cases t with
  | reference => cases plain
  | _ => rfl

/-- Only a reference is of the form of one. -/
theorem shape_ne_of_reference {lifetime : Option String} {isMutable : Bool}
    (plain : t.isReference = false) : t.shape ≠ .reference lifetime isMutable := by
  cases t with
  | reference => cases plain
  | _ => exact nofun

theorem simpleName_reference (lifetime : Option String) (isMutable : Bool) (referent : TypeRef) :
    (reference lifetime isMutable referent).simpleName = "" := by
  have nameless : Text.lastSegment "" = "" := by decide +kernel
  exact nameless

/-- A library type stands behind one reference at most. -/
theorem dereferenced_of_library (library : t.libraryTraits?.isSome = true) :
    t.dereferenced.isReference = false := by
  cases t with
  | reference lifetime isMutable referent =>
    cases referent with
    | reference => cases library
    | _ => rfl
  | _ => rfl

theorem libraryTraits?_dereferenced (plain : t.dereferenced.isReference = false) :
    t.dereferenced.libraryTraits? = t.libraryTraits? := by
  have once := dereferenced_of_not_reference plain
  unfold libraryTraits? isInteger isFloat isText isCollection
  rw [once]

/-- Every trait of a table has a name. -/
theorem ne_nameless_of_library {traits : List String} (library : t.libraryTraits? = some traits) :
    traits.contains "" = false := by
  unfold libraryTraits? at library
  split_ifs at library <;> cases library <;> decide +kernel

theorem assignability_self_of_plain (plain : t.isReference = false) :
    assignability t t h = .assignable := by
  simp [assignability, dereferenced_of_not_reference plain]

/-- A reference as a target has a form and a name that what it refers to cannot have. -/
theorem differs_of_reference (refers : t.isReference = true)
    (plain : t.dereferenced.isReference = false) :
    ¬(t.dereferenced.shape = t.shape ∧ t.dereferenced.simpleName = t.simpleName) := by
  cases t with
  | reference => exact fun same => shape_ne_of_reference plain same.1
  | _ => cases refers

theorem simpleName_of_reference (refers : t.isReference = true) : t.simpleName = "" := by
  cases t with
  | reference => exact simpleName_reference ..
  | _ => cases refers

theorem assignability_self_of_library (refers : t.isReference = true)
    (library : t.libraryTraits?.isSome = true) : assignability t t h = .notAssignable := by
  have plain := dereferenced_of_library library
  obtain ⟨traits, known⟩ := Option.isSome_iff_exists.mp library
  have table := (libraryTraits?_dereferenced plain).trans known
  have absent : traits.contains "" = false := ne_nameless_of_library known
  simp only [assignability, if_neg (differs_of_reference refers plain), table]
  rw [simpleName_of_reference refers, absent, library, Bool.or_true]
  rfl

/-- Behind a reference a declared type stands for itself only if a supertype without a name is
found above it. -/
theorem assignability_self_of_declared (refers : t.isReference = true)
    (plain : t.dereferenced.isReference = false) (foreign : t.libraryTraits? = none)
    (declared : (h.supertypes? t.dereferenced.simpleName).isSome = true) :
    assignability t t h =
      if h.reaches t.dereferenced.simpleName "" then .assignable else .notAssignable := by
  have table := (libraryTraits?_dereferenced plain).trans foreign
  have known : (h.supertypes? t.dereferenced.simpleName).isNone = false := by
    rw [Option.isNone_eq_false_iff, declared]
  have absent : generatedTraits.contains "" = false := by decide +kernel
  simp only [assignability, if_neg (differs_of_reference refers plain), table, known]
  rw [simpleName_of_reference refers, absent, Bool.false_or]
  rfl

end Companion.TypeRef

namespace Companion

open Relation

/-- Whether the check that an element stands for its own type, however that is written, finds
nothing. -/
theorem Validator.findings_ownType {context : SynthesisContext} {e : Element} {name : String}
    (parsed : TypeRef.parse name = .ok e.type) :
    (assignableTo.synthesize context e (some (.text name))).findings =
      if e.type.assignability e.type context.hierarchy = .notAssignable then
        [.notAssignable e.label e.type e.type] else [] := by
  simp only [synthesize, Element.assignabilityFindings, Option.elim_some, parsed,
    Option.isNone_some, Bool.and_false, Bool.false_eq_true, if_false, if_true]

/-- A type that is no reference stands for itself. One reference before a library type, or before a
declared type that no supertype without a name stands above, and it no longer does, which is
reported of an element that has to stand for its own type. -/
theorem TypeRef.assignability_self (context : SynthesisContext) (e : Element) {name : String}
    (parsed : TypeRef.parse name = .ok e.type) :
    let h := context.hierarchy
    let t := e.type
    let reports := (Validator.assignableTo.synthesize context e (some (.text name))).findings
    let stands := t.assignability t h = .assignable ∧ reports = []
    let fails := t.assignability t h = .notAssignable ∧ reports = [.notAssignable e.label t t]
    (t.isReference = false → stands) ∧
      (t.isReference = true → t.libraryTraits?.isSome = true → fails) ∧
      (t.isReference = true → t.dereferenced.isReference = false → t.libraryTraits? = none →
        (h.supertypes? t.dereferenced.simpleName).isSome = true →
          let leads := TransGen h.IsParent t.dereferenced.simpleName ""
          (leads → stands) ∧ (¬leads → fails)) := by
  intro h t reports stands fails
  have found : reports = if t.assignability t h = .notAssignable then _ else _ :=
    Validator.findings_ownType parsed
  have stands_of (answer : t.assignability t h = .assignable) : stands :=
    ⟨answer, found.trans (if_neg (by rw [answer]; exact nofun))⟩
  have fails_of (answer : t.assignability t h = .notAssignable) : fails :=
    ⟨answer, found.trans (if_pos answer)⟩
  refine ⟨fun plain => stands_of (assignability_self_of_plain plain),
    fun refers library => fails_of (assignability_self_of_library refers library),
    fun refers once foreign declared => ⟨fun leads => stands_of ?_, fun stays => fails_of ?_⟩⟩
  · rw [assignability_self_of_declared refers once foreign declared,
      if_pos (Hierarchy.reaches_iff.mpr leads)]
  · rw [assignability_self_of_declared refers once foreign declared,
      if_neg fun reached => stays (Hierarchy.reaches_iff.mp reached)]

/-- A reference to a number is not taken for one. -/
theorem TypeRef.assignability_self_reference :
    let context : SynthesisContext := ⟨⟨[]⟩, "::declgen::runtime"⟩
    let count : Element := ⟨"count", "count", .reference none false (.named "i64")⟩
    TypeRef.parse "&i64" = .ok count.type ∧
      count.type.assignability count.type context.hierarchy = .notAssignable ∧
      (Validator.assignableTo.synthesize context count (some (.text "&i64"))).findings ≠ [] := by
  intro context count
  have parsed : TypeRef.parse "&i64" = .ok count.type := rfl
  obtain ⟨answer, reported⟩ := (assignability_self context count parsed).2.1 rfl (by decide +kernel)
  exact ⟨parsed, answer, by rw [reported]; exact List.cons_ne_nil _ _⟩

end Companion

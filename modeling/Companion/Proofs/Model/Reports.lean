import Companion.Contract.Table
import Companion.Proofs.Diagnostic.Reports
import Companion.Proofs.Model.Methods

/-! Everything that is reported about a declaration before its units are generated, and where.

A model knows the places of its parts. They are all places of its declaration.
-/

set_option autoImplicit false

namespace Companion

/-- What the checks of a declaration may report: that it has no model, that a part of it is misused,
or what follows from its wishes. -/
inductive Diagnostic.OfCheck : Diagnostic → Prop where
  | model (e : ModelError) (l : Location) : OfCheck ⟨.error, Template.escape e.message, [], l⟩
  | expression (what text : String) (l : Location) :
    OfCheck ⟨.error, "The $ `$` is not a valid expression: $", [what, text, Text.unexplained], l⟩
  | body (text : String) (l : Location) :
    OfCheck ⟨.error, "The method body `$` is not valid: $", [text, Text.unexplained], l⟩
  | key (name type : String) (l : Location) :
    OfCheck ⟨.error, "The parameter $ of type $ cannot be part of a cache key (not hashable).",
      [name, type], l⟩
  | arity (limit method : String) (l : Location) :
    OfCheck ⟨.error, "Cannot cache more than $ parameters (method: $).", [limit, method], l⟩
  | unitResult (method : String) (l : Location) :
    OfCheck ⟨.error, "The method $ returns nothing; its result cannot be cached.", [method], l⟩
  | implied (kind : String) (l : Location) :
    OfCheck ⟨.info, "The $ is generated because another requested artifact needs it.", [kind], l⟩
  | finding (f : Finding) (l : Location) : OfCheck ⟨.error, f.template, f.arguments, l⟩
  | unknownValidator (tag : String) (l : Location) :
    OfCheck ⟨.error, "Unknown validator `$`.", [tag], l⟩

/-- Whether two places are of one declaration in one file. -/
def Location.SharesOwner (a b : Location) : Prop :=
  a.file = b.file ∧ a.declaration = b.declaration

/-- What the checks of a declaration may report, at one of its places. -/
def Diagnostic.IsOfCheckAt (owner : Location) (d : Diagnostic) : Prop :=
  d.OfCheck ∧ d.location.SharesOwner owner

namespace Location

variable {a b c : Location}

theorem sharesOwner_refl (a : Location) : a.SharesOwner a := ⟨rfl, rfl⟩

theorem SharesOwner.trans (ab : a.SharesOwner b) (bc : b.SharesOwner c) : a.SharesOwner c :=
  ⟨ab.1.trans bc.1, ab.2.trans bc.2⟩

theorem sharesOwner_place (l : Location) (position : Option (Nat × Nat)) :
    (DeclarationSource.place l position).SharesOwner l := by
  cases position <;> exact ⟨rfl, rfl⟩

theorem sharesOwner_locateMember (source : DeclarationSource) (declaration member : String) :
    (source.locateMember declaration member).SharesOwner (source.locate declaration) :=
  (sharesOwner_place ..).trans ⟨rfl, rfl⟩

end Location

open Checked

variable {batch : Batch} {source : DeclarationSource} {d : Declaration} {o l : Location}

namespace Model

section

variable (here : l.SharesOwner o)

include here

theorem reports_model {α : Type} {e : ModelError} :
    Reports (Diagnostic.IsOfCheckAt o) (e.reportAt l : Checked α) :=
  .failWith ⟨.model e l, here⟩

theorem reports_checkIdentifier {name : String} :
    Reports (Diagnostic.IsOfCheckAt o) (checkIdentifier l name) := by
  unfold checkIdentifier
  split
  · exact .ok
  · exact reports_model here

theorem reports_checkType {text : String} :
    Reports (Diagnostic.IsOfCheckAt o) (checkType l text) := by
  unfold checkType
  split
  · exact .pure _
  · exact reports_model here

theorem reports_checkExpression {what text : String} :
    Reports (Diagnostic.IsOfCheckAt o) (checkExpression l what text) := by
  unfold checkExpression
  split
  · exact .ok
  · exact .report ⟨.expression .., here⟩

theorem reports_checkValidators {specs : List ValidatorSpec} :
    Reports (Diagnostic.IsOfCheckAt o) (checkValidators l specs) := by
  refine .allMap fun spec _ => ?_
  unfold checkValidator
  split
  · exact .pure _
  · exact reports_model here

/-! ### Fields -/

theorem reports_checkNames {name : String} {accessor : Option String} :
    Reports (Diagnostic.IsOfCheckAt o) (checkNames l name accessor) := by
  unfold checkNames
  split
  · split
    · exact reports_checkIdentifier here
    · exact .andThen (reports_checkIdentifier here) fun _ _ => reports_checkIdentifier here
  · exact reports_checkIdentifier here

theorem reports_checkRole {name : String} {member : Declaration.Member} :
    Reports (Diagnostic.IsOfCheckAt o) (checkRole l name member) := by
  unfold checkRole
  split
  · exact reports_model here
  · exact .map (reports_checkExpression here)
  · exact .map (reports_checkExpression here)
  · exact .pure _

theorem reports_checkField {member : Declaration.Member} :
    Reports (Diagnostic.IsOfCheckAt o) (checkField batch l member) := by
  unfold checkField
  split
  · exact reports_model here
  · exact .seq (.seq (.seq (.map (reports_checkNames here)) (reports_checkType here))
      (reports_checkRole here)) (reports_checkValidators here)

end

theorem sharesOwner_memberLocation (member : Declaration.Member) :
    (memberLocation source d member).SharesOwner (source.locate d.name) := by
  unfold memberLocation
  split
  · exact Location.sharesOwner_locateMember ..
  · exact Location.sharesOwner_refl _

/-- The fields that are there, refused or not, are at places of the declaration. -/
theorem reports_checkFields : ∀ x ∈ checkFields batch source d,
    Reports (Diagnostic.IsOfCheckAt (source.locate d.name)) x ∧
      ∀ f, x.value = some f → f.location.SharesOwner (source.locate d.name) := by
  refine forall_refuseRepeated (fun x member => ?_) fun x ⟨reports, there⟩ =>
    ⟨?_, fun f value => ?_⟩
  · obtain ⟨m, -, rfl⟩ := List.mem_map.mp member
    have here : (memberLocation source d m).SharesOwner (source.locate d.name) :=
      sharesOwner_memberLocation m
    exact ⟨reports_checkField here, fun f value => (isOf_of_checkField value).location ▸ here⟩
  · exact .andThen reports fun f value => reports_model (there f value)
  · rw [Checked.value_andThen, Option.bind_eq_some_iff] at value
    obtain ⟨_, -, refused⟩ := value
    cases refused

theorem reports_checkEncoding {f : Field} (here : f.location.SharesOwner o) :
    Reports (Diagnostic.IsOfCheckAt o) (checkEncoding batch f) := by
  unfold checkEncoding
  split
  · split
    · exact reports_model here
    · exact .ok
  · split
    · exact .ok
    · exact reports_model here

/-! ### Methods -/

/-- Whether a method and its parameters are at places of the declaration at a place. -/
def Method.IsAt (o : Location) (m : Method) : Prop :=
  m.location.SharesOwner o ∧ ∀ p ∈ m.parameters, p.location.SharesOwner o

section

variable (here : l.SharesOwner o)

include here

theorem reports_checkParameter {method : String} {p : Declaration.Parameter} :
    Reports (Diagnostic.IsOfCheckAt o) (checkParameter l method p) := by
  have inside : (l.withMember (method ++ "(" ++ p.name ++ ")")).SharesOwner o := here
  exact .seq (.seq (.map (reports_checkType inside)) (reports_checkIdentifier inside))
    (reports_checkValidators inside)

theorem sharesOwner_of_checkParameter {method : String} {p : Declaration.Parameter}
    {parameter : Parameter} (checked : (checkParameter l method p).value = some parameter) :
    parameter.location.SharesOwner o := by
  simp only [checkParameter, Checked.value_seq, Checked.value_map, Option.bind_eq_some_iff,
    Option.map_eq_some_iff] at checked
  obtain ⟨_, ⟨_, ⟨_, -, rfl⟩, _, -, rfl⟩, _, -, rfl⟩ := checked
  exact here

theorem reports_checkReturns {returns : Option String} :
    Reports (Diagnostic.IsOfCheckAt o) (checkReturns l returns) := by
  unfold checkReturns
  split
  · exact reports_checkType here
  · exact .pure _

theorem reports_checkInterceptor {tag : String} :
    Reports (Diagnostic.IsOfCheckAt o) (checkInterceptor l tag) := by
  unfold checkInterceptor
  split
  · exact .pure _
  · exact reports_model here

end

theorem reports_checkWeaving {m : Method} (inside : m.IsAt o) :
    Reports (Diagnostic.IsOfCheckAt o) (checkWeaving m) := by
  unfold checkWeaving
  split
  · split
    · exact reports_model inside.1
    · refine .map ?_
      unfold checkBody
      split
      · exact .ok
      · exact .report ⟨.body .., inside.1⟩
  · exact .pure _

theorem reports_checkCaching {maxCacheArity : Nat} {m : Method} (inside : m.IsAt o) :
    Reports (Diagnostic.IsOfCheckAt o) (checkCaching maxCacheArity m) := by
  unfold checkCaching
  split
  · exact .pure _
  · split
    · exact .failWith ⟨.arity .., inside.1⟩
    · split
      · exact .map (.report ⟨.unitResult .., inside.1⟩)
      · refine .map (.allMap fun p member => ?_)
        unfold checkKey
        split
        · exact .ok
        · exact .report ⟨.key .., inside.2 p member⟩

/-- Caching changes nothing but the interceptors of a method. -/
theorem isAt_of_checkCaching {maxCacheArity : Nat} {m m' : Method} (inside : m.IsAt o)
    (checked : (checkCaching maxCacheArity m).value = some m') : m'.IsAt o := by
  unfold checkCaching at checked
  split at checked
  · cases checked
    exact inside
  · split at checked
    · cases checked
    · split at checked <;>
      · simp only [Checked.value_map, Option.map_eq_some_iff] at checked
        obtain ⟨_, -, rfl⟩ := checked
        exact inside

section

variable {maxCacheArity : Nat} {method : Declaration.Method} {m : Method}

/-- A method whose parts were all checked, before it is woven. -/
theorem isAt_of_parts (here : l.SharesOwner o) {name : Checked Unit} {returns : Checked TypeRef}
    {interceptors : Checked (List Interceptor)} {validators : Checked (List Descriptor)}
    (checked : ((fun _ parameters returns interceptors validators =>
        (⟨method.name, parameters, returns, interceptors.eraseDups, validators,
          method.body.map Text.trim, l⟩ : Method)) <$> name <*>
        Checked.all (method.parameters.map (checkParameter l method.name)) <*> returns <*>
        interceptors <*> validators).value = some m) : m.IsAt o := by
  simp only [Checked.value_seq, Checked.value_map, Option.bind_eq_some_iff,
    Option.map_eq_some_iff] at checked
  obtain ⟨_, ⟨_, ⟨_, ⟨_, ⟨_, -, rfl⟩, parameters, known, rfl⟩, _, -, rfl⟩, _, -, rfl⟩, _, -,
    rfl⟩ := checked
  refine ⟨here, fun p member => ?_⟩
  have listed : some p ∈ parameters.map some := List.mem_map_of_mem member
  rw [← Checked.value_all_eq_some.mp known, List.map_map] at listed
  obtain ⟨q, -, checked⟩ := List.mem_map.mp listed
  exact sharesOwner_of_checkParameter here checked

theorem reports_checkMethod (here : l.SharesOwner o) :
    Reports (Diagnostic.IsOfCheckAt o) (checkMethod maxCacheArity l method) := by
  refine .andThen (.andThen ?_ fun m checked => ?_) fun m checked => ?_
  · exact .seq (.seq (.seq (.seq (.map (reports_checkIdentifier here))
      (.allMap fun _ _ => reports_checkParameter here)) (reports_checkReturns here))
      (.allMap fun _ _ => reports_checkInterceptor here)) (reports_checkValidators here)
  · exact reports_checkWeaving (isAt_of_parts here checked)
  · obtain ⟨m', checked, weaves⟩ := Option.bind_eq_some_iff.mp checked
    obtain ⟨rfl, -⟩ := body_of_checkWeaving weaves
    exact reports_checkCaching (isAt_of_parts here checked)

theorem isAt_of_checkMethod (here : l.SharesOwner o)
    (checked : (checkMethod maxCacheArity l method).value = some m) : m.IsAt o := by
  simp only [checkMethod, Checked.value_andThen, Option.bind_eq_some_iff] at checked
  obtain ⟨woven, ⟨parts, checked, weaves⟩, caches⟩ := checked
  obtain ⟨rfl, -⟩ := body_of_checkWeaving weaves
  exact isAt_of_checkCaching (isAt_of_parts here checked) caches

end

/-! ### Declarations -/

theorem reports_checkName (here : l.SharesOwner o) {name : String} :
    Reports (Diagnostic.IsOfCheckAt o) (checkName l name) := by
  unfold checkName
  split
  · exact .ok
  · exact reports_model here

theorem reports_ofDeclaration :
    Reports (Diagnostic.IsOfCheckAt (source.locate d.name)) (ofDeclaration batch source d) := by
  have here := Location.sharesOwner_refl (source.locate d.name)
  refine .seq (.seq (.seq (.seq (.seq (.map (reports_checkName here)) (reports_checkType here))
    (.allMap fun _ _ => .report ⟨.implied .., here⟩))
    (.all fun x member => (reports_checkFields x member).1)) (.allMap fun method _ => ?_)) ?_
  · exact reports_checkMethod (Location.sharesOwner_locateMember ..)
  · split
    · refine .allMap fun f member => reports_checkEncoding ?_
      obtain ⟨x, listed, value⟩ := List.mem_filterMap.mp member
      exact (reports_checkFields x listed).2 f value
    · exact .pure []

/-- The places of a model's parts are places of its declaration. -/
structure IsAt (o : Location) (model : Model) : Prop where
  fields : ∀ f ∈ model.fields, f.location.SharesOwner o
  methods : ∀ m ∈ model.methods, m.IsAt o

theorem isAt_of_ofDeclaration {model : Model}
    (built : (ofDeclaration batch source d).value = some model) :
    model.IsAt (source.locate d.name) where
  fields f member := by
    have listed : some f ∈ model.fields.map some := List.mem_map_of_mem member
    rw [← fields_of_ofDeclaration built] at listed
    obtain ⟨x, inside, value⟩ := List.mem_map.mp listed
    exact (reports_checkFields x inside).2 f value
  methods m member := by
    have listed : some m ∈ model.methods.map some := List.mem_map_of_mem member
    rw [← methods_of_ofDeclaration built, checkMethods, List.map_map] at listed
    obtain ⟨method, -, checked⟩ := List.mem_map.mp listed
    exact isAt_of_checkMethod (Location.sharesOwner_locateMember ..) checked

end Model

namespace ContractTable

theorem reports_checkDescriptor (here : l.SharesOwner o) {context : SynthesisContext}
    {e : Element} {d : Descriptor} :
    Reports (Diagnostic.IsOfCheckAt o) (checkDescriptor context e l d) := by
  unfold checkDescriptor
  split
  · exact .map (.allMap fun _ _ => .report ⟨.finding .., here⟩)
  · exact .failWith ⟨.unknownValidator .., here⟩

theorem reports_ofModel {context : SynthesisContext} {model : Model} (inside : model.IsAt o) :
    Reports (Diagnostic.IsOfCheckAt o) (ofModel context model) := by
  have places : ∀ subject ∈ subjects model, subject.2.2.1.SharesOwner o := by
    refine List.forall_mem_append.mpr ⟨List.forall_mem_map.mpr inside.fields, ?_⟩
    refine List.forall_mem_flatMap.mpr fun m member => ?_
    obtain ⟨here, parameters⟩ := inside.methods m member
    exact List.forall_mem_append.mpr
      ⟨List.forall_mem_map.mpr parameters, List.forall_mem_singleton.mpr here⟩
  exact .map (.allMap fun subject member => .map (.map (.allMap fun _ _ =>
    reports_checkDescriptor (places subject member))))

end ContractTable

end Companion

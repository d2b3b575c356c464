import Companion.Code.Grammar
import Companion.Proofs.Code.Readers

/-! The types that the grammar gives are written in order.

The names in them are names, paths and sums are not empty, and the length of an array is a
number. Of the forms that no declaration may hold nothing is said.
-/

set_option autoImplicit false
set_option mvcgen.warning false

namespace Companion.Code

open Std.Do

/-- Words that are reserved but stand in paths, without arguments. -/
def pathKeywords : List String := ["super", "self", "crate", "try"]

def StandsInPath (name : String) : Prop :=
  name ∈ pathKeywords ∨ name = "Self" ∨ name ∉ Tree.reserved

/-- A name in a path. -/
def IsPathName (name : String) : Prop := Lexer.IsName name.toList ∧ StandsInPath name

/-- Arguments in angle brackets do not follow every name. -/
def Arguments.Suit (name : String) : Arguments → Prop
  | .angled _ => name ∉ pathKeywords
  | _ => True

def Segment.name : Segment → String
  | .mk name _ => name

/-- What a path may start with where a type is expected. -/
def Path.BeginsType (path : Path) : Prop :=
  path.absolute = true ∨ ∀ segment ∈ path.segments.head?, segment.name ≠ "try"

mutual

def TypeExpr.IsWritten : TypeExpr → Prop
  | .path qualified path => qualified = true ∨ path.IsWritten ∧ path.BeginsType
  | .reference lifetime _ referent =>
    (∀ name ∈ lifetime, Lexer.IsName name.toList) ∧ referent.IsWritten
  | .slice element => element.IsWritten
  | .array element length =>
    element.IsWritten ∧ ∀ digits ∈ length, ∃ n : Nat, digits = toString n
  | .tuple elements => AreTypesWritten elements
  | .parenthesized inner => inner.IsWritten
  | .traitObject _ bounds _ => AreBoundsWritten bounds ∧ ∃ path, .trait path ∈ bounds
  | _ => True

def AreTypesWritten : List TypeExpr → Prop
  | [] => True
  | e :: others => e.IsWritten ∧ AreTypesWritten others

def Path.IsWritten : Path → Prop
  | .mk _ segments => segments ≠ [] ∧ AreSegmentsWritten segments

def AreSegmentsWritten : List Segment → Prop
  | [] => True
  | segment :: others => segment.IsWritten ∧ AreSegmentsWritten others

def Segment.IsWritten : Segment → Prop
  | .mk name arguments => IsPathName name ∧ arguments.Suit name ∧ arguments.AreWritten

def Arguments.AreWritten : Arguments → Prop
  | .angled arguments => IsListWritten arguments
  | _ => True

def IsListWritten : List Argument → Prop
  | [] => True
  | argument :: others => argument.IsWritten ∧ IsListWritten others

def Argument.IsWritten : Argument → Prop
  | .type type => type.IsWritten
  | .other => True

def AreBoundsWritten : List Bound → Prop
  | [] => True
  | bound :: others => bound.IsWritten ∧ AreBoundsWritten others

def Bound.IsWritten : Bound → Prop
  | .trait path => path.IsWritten
  | .lifetime name => Lexer.IsName name.toList
  | _ => True

end

/-- What the productions one level down give. -/
structure Grammar.GivesWritten (g : Grammar) : Prop where
  type (plus : Bool) :
    ⦃fun ts => ⌜AreNamed ts⌝⦄ g.type plus ⦃⇓? e ts => ⌜e.IsWritten ∧ AreNamed ts⌝⦄
  bound (forms : BoundForms) :
    ⦃fun ts => ⌜AreNamed ts⌝⦄ g.bound forms ⦃⇓? bound ts => ⌜bound.IsWritten ∧ AreNamed ts⌝⦄
  relaxed (forms : BoundForms) :
    ⦃fun ts => ⌜Tree.atOperator "?" ts⌝⦄ g.bound forms ⦃⇓? bound _ => ⌜∃ path, bound = .trait path⌝⦄

namespace Grammar

open Reader

variable {g : Grammar}

theorem outerAttributes_spec (g : Grammar) :
    ⦃fun ts => ⌜AreNamed ts⌝⦄ g.outerAttributes ⦃⇓? _ ts => ⌜AreNamed ts⌝⦄ := by
  apply loop_spec fun _ => AreNamed
  intro count
  mvcgen [within_keeps]

theorem constArgument_spec (g : Grammar) :
    ⦃fun ts => ⌜AreNamed ts⌝⦄ g.constArgument ⦃⇓? _ ts => ⌜AreNamed ts⌝⦄ := by
  mvcgen [constArgument, within_keeps]
  next read => exact read.2.2

theorem boundsUntil_spec (sound : g.GivesWritten) (const : Bool) (stop : List Tree → Bool) :
    ⦃fun ts => ⌜AreNamed ts⌝⦄ g.boundsUntil const stop ⦃⇓? _ ts => ⌜AreNamed ts⌝⦄ := by
  have bound := sound.bound
  apply repeatWhile_spec
  mvcgen [bound]
  next read => exact read.2

theorem angled_spec {α : Type} (item : Reader α) (P : α → Prop)
    (each : ⦃fun ts => ⌜AreNamed ts⌝⦄ item ⦃⇓? a ts => ⌜P a ∧ AreNamed ts⌝⦄) :
    ⦃fun ts => ⌜AreNamed ts⌝⦄ angled item ⦃⇓? items ts => ⌜(∀ a ∈ items, P a) ∧ AreNamed ts⌝⦄ := by
  have loops := loop_spec fun (items : List α) ts => (∀ a ∈ items, P a) ∧ AreNamed ts
  mvcgen [angled, loops, each] <;> simp_all +zetaDelta

theorem genericParameter_spec (sound : g.GivesWritten) :
    ⦃fun ts => ⌜AreNamed ts⌝⦄ g.genericParameter ⦃⇓? _ ts => ⌜AreNamed ts⌝⦄ := by
  have type := sound.type
  have bounds := boundsUntil_spec sound
  mvcgen [genericParameter, type, bounds, constArgument_spec, repeatWhile_spec] <;> simp_all

theorem quantifier_spec (sound : g.GivesWritten) :
    ⦃fun ts => ⌜AreNamed ts⌝⦄ g.quantifier ⦃⇓? _ ts => ⌜AreNamed ts⌝⦄ := by
  have parameter := genericParameter_spec sound
  have parameters (item : Reader Unit) := angled_spec item fun _ => True
  mvcgen [quantifier, parameters, outerAttributes_spec, parameter] <;> simp_all

theorem associated_spec (sound : g.GivesWritten) :
    ⦃fun ts => ⌜AreNamed ts⌝⦄ g.associated ⦃⇓? _ ts => ⌜AreNamed ts⌝⦄ := by
  have type := sound.type
  have bounds := boundsUntil_spec sound
  mvcgen [associated, type, bounds, constArgument_spec]
  simp_all

theorem argument_spec (sound : g.GivesWritten) :
    ⦃fun ts => ⌜AreNamed ts⌝⦄ g.argument
      ⦃⇓? argument ts => ⌜argument.IsWritten ∧ AreNamed ts⌝⦄ := by
  have type := sound.type
  have associated := associated_spec sound
  mvcgen [argument, type, associated, constArgument_spec] <;> simp_all [Argument.IsWritten]

theorem pathKeywords_subset : pathKeywords ⊆ Tree.reserved := by decide

theorem isListWritten_iff {arguments : List Argument} :
    IsListWritten arguments ↔ ∀ argument ∈ arguments, argument.IsWritten := by
  induction arguments with
  | nil => simp [IsListWritten]
  | cons argument arguments ih => simp [IsListWritten, ih]

theorem areSegmentsWritten_iff {segments : List Segment} :
    AreSegmentsWritten segments ↔ ∀ segment ∈ segments, segment.IsWritten := by
  induction segments with
  | nil => simp [AreSegmentsWritten]
  | cons segment segments ih => simp [AreSegmentsWritten, ih]

theorem segment_spec (inExpr : Bool) (arguments : Reader (List Argument))
    (written : ⦃fun ts => ⌜AreNamed ts⌝⦄ arguments
      ⦃⇓? given ts => ⌜(∀ argument ∈ given, argument.IsWritten) ∧ AreNamed ts⌝⦄) :
    ⦃fun ts => ⌜AreNamed ts⌝⦄ segment inExpr arguments
      ⦃⇓? segment ts => ⌜segment.IsWritten ∧ AreNamed ts⌝⦄ := by
  mvcgen [segment, written, anyWord]
  all_goals simp_all [Segment.IsWritten, Arguments.AreWritten, isListWritten_iff, Arguments.Suit,
    IsPathName, StandsInPath, pathKeywords, Tree.atWord, AreNamed.ident_iff]
  next => tauto
  -- only a word that is not reserved is asked for arguments
  next free _ _ _ => simpa [pathKeywords] using mt (pathKeywords_subset ·) free.2.1

/-- The name of a segment is the word that comes next. -/
theorem segment_name (inExpr : Bool) (arguments : Reader (List Argument)) (word : String) :
    ⦃fun ts => ⌜Tree.atWord word ts = false⌝⦄ segment inExpr arguments
      ⦃⇓? segment _ => ⌜segment.name ≠ word⌝⦄ := by
  have anything := trivial_spec arguments
  mvcgen [segment, anything, anyWord, -ident_spec, ident, -operator?_spec, operator?] <;>
    simp_all [Tree.atWord, Segment.name]

theorem moreSegments_spec {segment : Reader Segment} (first : List Segment)
    (written : ⦃fun ts => ⌜AreNamed ts⌝⦄ segment
      ⦃⇓? segment ts => ⌜segment.IsWritten ∧ AreNamed ts⌝⦄) :
    ⦃fun ts => ⌜(∀ segment ∈ first, segment.IsWritten) ∧ AreNamed ts⌝⦄ moreSegments segment first
      ⦃⇓? segments ts => ⌜(∀ segment ∈ segments, segment.IsWritten) ∧ AreNamed ts⌝⦄ := by
  have loops := loop_spec fun (segments : List Segment) ts =>
    (∀ segment ∈ segments, segment.IsWritten) ∧ AreNamed ts
  mvcgen [moreSegments, loops, written] <;> simp_all

theorem moreSegments_keeps (segment : Reader Segment) (first : List Segment) :
    ⦃fun _ => ⌜True⌝⦄ moreSegments segment first ⦃⇓? segments _ => ⌜first <+: segments⌝⦄ := by
  have loops := loop_spec fun (segments : List Segment) _ => first <+: segments.reverse
  have colons := trivial_spec (operator "::")
  have anything := trivial_spec segment
  mvcgen [moreSegments, loops, anything, -operator_spec, colons]
  · simpa using List.IsPrefix.trans ‹_› (List.prefix_append _ _)
  · simp

theorem typePath_spec (sound : g.GivesWritten) (inExpr : Bool) :
    ⦃fun ts => ⌜AreNamed ts⌝⦄ g.typePath inExpr
      ⦃⇓? path ts => ⌜path.IsWritten ∧ AreNamed ts⌝⦄ := by
  have segment := segment_spec inExpr _ (angled_spec _ Argument.IsWritten (argument_spec sound))
  have more (first : List Segment) := triple_and (moreSegments_spec first segment)
    (moreSegments_keeps _ first)
  mvcgen [typePath, segment, more]
  · simp_all
  next segments _ kept =>
    have given : segments ≠ [] := by
      rintro rfl
      simp at kept
    exact ⟨⟨given, areSegmentsWritten_iff.mpr kept.1.1⟩, kept.1.2⟩

/-- A path that starts where a type begins begins one itself. -/
theorem typePath_begins (g : Grammar) (inExpr : Bool) :
    ⦃fun ts => ⌜Tree.atWord "try" ts = false⌝⦄ g.typePath inExpr
      ⦃⇓? path _ => ⌜path.BeginsType⌝⦄ := by
  rw [triple_iff]
  intro ts start path left read
  simp only [typePath, run_bind, run_operator?] at read
  obtain ⟨absolute, rest, colons, first, mid, named, segments, mid', more, done⟩ := read
  cases colons
  cases done
  by_cases found : Tree.atOperator "::" ts = true
  · exact .inl found
  · rw [if_neg found] at named
    obtain ⟨others, rfl⟩ := triple_iff.mp (moreSegments_keeps _ _) _ trivial _ _ more
    have name := triple_iff.mp (segment_name _ _ "try") _ start _ _ named
    exact .inr (by simpa [Path.segments] using name)

theorem output_spec (sound : g.GivesWritten) :
    ⦃fun ts => ⌜AreNamed ts⌝⦄ g.output ⦃⇓? _ ts => ⌜AreNamed ts⌝⦄ := by
  have type := sound.type
  mvcgen [output, type]
  exact fun _ named => named

theorem signatureArguments_spec (sound : g.GivesWritten) :
    ⦃fun ts => ⌜AreNamed ts⌝⦄ g.signatureArguments ⦃⇓? _ ts => ⌜AreNamed ts⌝⦄ := by
  have output := output_spec sound
  mvcgen [signatureArguments, within_keeps, output]

theorem withSignature_isWritten {path : Path} (written : path.IsWritten)
    (output : Option TypeExpr) :
    (path.withSignature output).IsWritten := by
  obtain ⟨absolute, segments⟩ := path
  obtain ⟨given, each⟩ := written
  rw [areSegmentsWritten_iff] at each
  rcases List.eq_nil_or_concat segments with none | ⟨first, ⟨name, arguments⟩, rfl⟩
  · exact absurd none given
  · have last := each (.mk name arguments) (by simp)
    refine ⟨by simp [Path.segments], areSegmentsWritten_iff.mpr fun segment member => ?_⟩
    simp only [Path.segments, List.concat_eq_append, List.dropLast_concat, List.getLast?_concat,
      Option.map_some, Option.toList_some, List.mem_append, List.mem_singleton] at member
    rcases member with member | rfl
    · exact each segment (by simp [member])
    · exact ⟨last.1, trivial, trivial⟩

theorem traitPath_spec (sound : g.GivesWritten) :
    ⦃fun ts => ⌜AreNamed ts⌝⦄ g.traitPath ⦃⇓? path ts => ⌜path.IsWritten ∧ AreNamed ts⌝⦄ := by
  have path := typePath_spec sound
  have signature := signatureArguments_spec sound
  mvcgen [traitPath, path, signature] <;> simp_all [withSignature_isWritten]

theorem isWritten_trait {path : Path} (written : path.IsWritten) (isConst : Bool) :
    (if isConst then Bound.other false else .trait path).IsWritten := by
  cases isConst with
  | false => exact written
  | true => trivial

theorem traitBound_spec (sound : g.GivesWritten) (forms : BoundForms) :
    ⦃fun ts => ⌜AreNamed ts⌝⦄ g.traitBound forms
      ⦃⇓? bound ts => ⌜bound.IsWritten ∧ AreNamed ts⌝⦄ := by
  have quantifier := quantifier_spec sound
  have path := traitPath_spec sound
  mvcgen [traitBound, quantifier, path, within_keeps, guard] <;>
    simp_all [Bound.IsWritten, isWritten_trait]

theorem readBound_spec (sound : g.GivesWritten) (forms : BoundForms) :
    ⦃fun ts => ⌜AreNamed ts⌝⦄ g.readBound forms
      ⦃⇓? bound ts => ⌜bound.IsWritten ∧ AreNamed ts⌝⦄ := by
  have captured (item : Reader String) := angled_spec item fun _ => True
  have trait := traitBound_spec sound forms
  have inside := within_spec .parenthesis _ Bound.IsWritten (triple_fst trait)
  mvcgen [readBound, captured, anyWord, trait, inside, guard]
  all_goals simp_all [Bound.IsWritten, AreNamed.ident_iff]

theorem exists_of_relaxed {ts : List Tree} (relaxed : Tree.atOperator "?" ts = true) :
    ∃ joint more, ts = .punct '?' joint :: more := by
  match ts, relaxed with
  | .punct mark joint :: more, relaxed =>
    have same : mark = '?' := by simpa [Tree.atOperator, Tree.atMarks] using relaxed
    exact ⟨joint, more, by rw [same]⟩

/-- A bound after a question mark is a trait. -/
theorem readBound_relaxed (g : Grammar) (forms : BoundForms) :
    ⦃fun ts => ⌜Tree.atOperator "?" ts⌝⦄ g.readBound forms
      ⦃⇓? bound _ => ⌜∃ path, bound = .trait path⌝⦄ := by
  rw [triple_iff]
  intro ts relaxed bound left read
  obtain ⟨joint, more, rfl⟩ := exists_of_relaxed relaxed
  have quantified : g.quantifier.run (.punct '?' joint :: more) =
    some (false, .punct '?' joint :: more) := rfl
  simp only [readBound, traitBound] at read
  simp [rest, peek, word?, Tree.atLifetime, Tree.atWord, Tree.atGroup, quantified] at read
  obtain ⟨⟨found, mid⟩, trait, done⟩ := Option.bind_eq_some_iff.mp read
  have isTrait : ∃ path, found = .trait path := by
    obtain ⟨⟨marked, mid⟩, -, trait⟩ := Option.bind_eq_some_iff.mp trait
    cases marked with
    | false =>
      simp [Option.bind_eq_some_iff] at trait
      exact trait.imp fun _ read => read.2.symm
    | true =>
      simp at trait
  obtain ⟨path, rfl⟩ := isTrait
  cases done
  exact ⟨path, rfl⟩

theorem bounds_spec (sound : g.GivesWritten) (plus : Bool) (forms : BoundForms) :
    ⦃fun ts => ⌜AreNamed ts⌝⦄ g.bounds plus forms
      ⦃⇓? r ts => ⌜(∀ bound ∈ r.1, bound.IsWritten) ∧ AreNamed ts⌝⦄ := by
  have bound := sound.bound forms
  have loops := loop_spec fun (r : List Bound × Bool) ts =>
    (∀ bound ∈ r.1, bound.IsWritten) ∧ AreNamed ts
  mvcgen [bounds, bound, loops]
  -- the triples have done their part, and they are slow to simplify
  all_goals clear bound loops
  all_goals simp_all +zetaDelta

theorem areBoundsWritten_iff {bounds : List Bound} :
    AreBoundsWritten bounds ↔ ∀ bound ∈ bounds, bound.IsWritten := by
  induction bounds with
  | nil => simp [AreBoundsWritten]
  | cons bound bounds ih => simp [AreBoundsWritten, ih]

theorem areTypesWritten_iff {types : List TypeExpr} :
    AreTypesWritten types ↔ ∀ type ∈ types, type.IsWritten := by
  induction types with
  | nil => simp [AreTypesWritten]
  | cons type types ih => simp [AreTypesWritten, ih]

/-- Bounds with a trait among them. -/
def AreObjectBounds (bounds : List Bound) : Prop :=
  (∀ bound ∈ bounds, bound.IsWritten) ∧ ∃ path, .trait path ∈ bounds

@[simp]
theorem areObjectBounds_iff {bounds : List Bound} :
    (AreBoundsWritten bounds ∧ ∃ path, .trait path ∈ bounds) ↔ AreObjectBounds bounds := by
  rw [areBoundsWritten_iff]
  rfl

theorem isWritten_traitObject {isDyn isOpen : Bool} {bounds : List Bound} :
    (TypeExpr.traitObject isDyn bounds isOpen).IsWritten ↔ AreObjectBounds bounds := by
  rw [TypeExpr.IsWritten, areObjectBounds_iff]

theorem objectBounds_spec (sound : g.GivesWritten) (plus : Bool) :
    ⦃fun ts => ⌜AreNamed ts⌝⦄ g.objectBounds plus
      ⦃⇓? r ts => ⌜AreObjectBounds r.1 ∧ AreNamed ts⌝⦄ := by
  have bounds := bounds_spec sound plus ⟨false, false⟩
  mvcgen [objectBounds, bounds, guard]
  next kept found =>
    obtain ⟨bound, member, isTrait⟩ := List.any_eq_true.mp found
    cases bound with
    | trait path => exact ⟨⟨kept.1, path, member⟩, kept.2⟩
    | _ => cases isTrait

theorem moreBounds_spec (sound : g.GivesWritten) :
    ⦃fun ts => ⌜AreNamed ts⌝⦄ g.moreBounds
      ⦃⇓? bounds ts => ⌜(∀ bound ∈ bounds, bound.IsWritten) ∧ AreNamed ts⌝⦄ := by
  have bound := sound.bound ⟨false, false⟩
  have loops := loop_spec fun (bounds : List Bound) ts =>
    (∀ bound ∈ bounds, bound.IsWritten) ∧ AreNamed ts
  mvcgen [moreBounds, bound, loops] <;> simp_all

theorem AreObjectBounds.append {bounds others : List Bound} (first : AreObjectBounds bounds)
    (more : ∀ bound ∈ others, bound.IsWritten) : AreObjectBounds (bounds ++ others) :=
  ⟨List.forall_mem_append.mpr ⟨first.1, more⟩,
    first.2.imp fun _ member => List.mem_append_left _ member⟩

theorem AreObjectBounds.cons {bound : Bound} {bounds : List Bound} (written : bound.IsWritten)
    (others : AreObjectBounds bounds) : AreObjectBounds (bound :: bounds) :=
  ⟨List.forall_mem_cons.mpr ⟨written, others.1⟩,
    others.2.imp fun _ member => List.mem_cons_of_mem _ member⟩

theorem AreObjectBounds.reverse {bounds : List Bound} (object : AreObjectBounds bounds) :
    AreObjectBounds bounds.reverse :=
  ⟨fun bound member => object.1 bound (List.mem_reverse.mp member),
    object.2.imp fun _ member => List.mem_reverse.mpr member⟩

theorem AreObjectBounds.trait {path : Path} (written : path.IsWritten) :
    AreObjectBounds [.trait path] :=
  ⟨List.forall_mem_singleton.mpr written, path, List.mem_singleton_self _⟩

theorem asBound?_isWritten {type : TypeExpr} {bound : Bound} (written : type.IsWritten)
    (found : type.asBound? = some bound) : AreObjectBounds [bound] := by
  unfold TypeExpr.asBound? at found
  split at found
  next path =>
    cases found
    rw [TypeExpr.IsWritten] at written
    exact .trait (written.resolve_left Bool.false_ne_true).1
  next =>
    cases found
    exact isWritten_traitObject.mp written
  next => cases found

theorem insideParentheses_spec (sound : g.GivesWritten) :
    ⦃fun ts => ⌜AreNamed ts⌝⦄ g.insideParentheses ⦃⇓? type _ => ⌜type.IsWritten⌝⦄ := by
  have type := sound.type
  have elements (plus : Bool) := separated_spec "," _ TypeExpr.IsWritten (type plus)
  have object := objectBounds_spec sound
  have relaxed := triple_and (sound.bound ⟨false, false⟩) (sound.relaxed ⟨false, false⟩)
  mvcgen [insideParentheses, type, elements, object, relaxed] <;>
    simp_all [TypeExpr.IsWritten, areTypesWritten_iff, areBoundsWritten_iff, AreObjectBounds]
  next trait =>
    obtain ⟨path, rfl⟩ := trait.2
    exact ⟨path, rfl⟩

theorem parenthesizedType_spec (sound : g.GivesWritten) (plus : Bool) :
    ⦃fun ts => ⌜AreNamed ts⌝⦄ g.parenthesizedType plus
      ⦃⇓? type ts => ⌜type.IsWritten ∧ AreNamed ts⌝⦄ := by
  have inside := within_spec .parenthesis _ TypeExpr.IsWritten (insideParentheses_spec sound)
  have more := moreBounds_spec sound
  mvcgen [parenthesizedType, inside, more]
  next first => exact first.2
  next first _ _ others =>
    exact ⟨isWritten_traitObject.mpr ((isWritten_traitObject.mp first.1).append others.1), others.2⟩
  next first _ => exact first.2
  -- a trait in front of a plus sign joins the bounds that follow
  next alone _ first _ _ _ others =>
    have bound := asBound?_isWritten (by simpa [TypeExpr.IsWritten] using first.1) alone
    exact ⟨isWritten_traitObject.mpr (bound.append others.1), others.2⟩

theorem qualifiedPath_spec (sound : g.GivesWritten) (inExpr : Bool) :
    ⦃fun ts => ⌜AreNamed ts ∧ Tree.atWord "try" ts = false⌝⦄ g.qualifiedPath inExpr
      ⦃⇓? r ts => ⌜(r.1 = true ∨ r.2.IsWritten ∧ r.2.BeginsType) ∧ AreNamed ts⌝⦄ := by
  have type := sound.type
  have trait := typePath_spec sound false
  have path := triple_and (typePath_spec sound inExpr) (typePath_begins g inExpr)
  have segment := segment_spec inExpr _ (angled_spec _ Argument.IsWritten (argument_spec sound))
  have loops := loop_spec fun (_ : List Segment) => AreNamed
  mvcgen [qualifiedPath, type, trait, path, segment, loops] <;> simp_all

theorem functionType_spec (sound : g.GivesWritten) :
    ⦃fun ts => ⌜AreNamed ts⌝⦄ g.functionType ⦃⇓? _ ts => ⌜AreNamed ts⌝⦄ := by
  have output := output_spec sound
  mvcgen [functionType, within_keeps, output]

theorem builtin_spec : ⦃fun ts => ⌜AreNamed ts⌝⦄ builtin ⦃⇓? _ ts => ⌜AreNamed ts⌝⦄ := by
  mvcgen [builtin, within_keeps]
  next read => exact read.2.2

theorem pathType_spec (sound : g.GivesWritten) (plus quantified : Bool) :
    ⦃fun ts => ⌜AreNamed ts ∧ Tree.atWord "try" ts = false⌝⦄ g.pathType plus quantified
      ⦃⇓? type ts => ⌜type.IsWritten ∧ AreNamed ts⌝⦄ := by
  have path := qualifiedPath_spec sound false
  have bound := sound.bound ⟨false, false⟩
  have loops := loop_spec fun (r : List Bound × Bool) ts => AreObjectBounds r.1 ∧ AreNamed ts
  mvcgen [pathType, path, bound, loops]
  all_goals simp_all [TypeExpr.IsWritten, AreObjectBounds.cons, AreObjectBounds.trait,
    -List.mem_reverse]
  next object => exact object.1.reverse

theorem insideBrackets_spec (sound : g.GivesWritten) :
    ⦃fun ts => ⌜AreNamed ts⌝⦄ g.insideBrackets ⦃⇓? type _ => ⌜type.IsWritten⌝⦄ := by
  have type := sound.type
  have length := trivial_spec (g.expr true)
  have counted (text : String) :
      ∀ digits ∈ Number.integerDigits? text, ∃ n : Nat, digits = toString n := by
    intro digits found
    obtain ⟨⟨n, _⟩, -, rfl⟩ := Option.map_eq_some_iff.mp found
    exact ⟨n, rfl⟩
  mvcgen [insideBrackets, type, length] <;>
    simp_all only [TypeExpr.IsWritten, Option.not_mem_none, false_implies, implies_true, and_true]
  exact ⟨trivial, counted _⟩

/-- What a path as a type starts with. -/
def atPathType (ts : List Tree) : Bool :=
  Tree.atIdent ts || Tree.atWord "super" ts || Tree.atWord "self" ts || Tree.atWord "Self" ts ||
    Tree.atWord "crate" ts || Tree.atOperator "::" ts || Tree.atOperator "<" ts

theorem not_atWord_try {ts : List Tree} (begins : atPathType ts = true) :
    Tree.atWord "try" ts = false := by
  match ts with
  | [] => rfl
  | .ident name :: more =>
    by_contra same
    obtain rfl : name = "try" := by simpa [Tree.atWord] using same
    simp [atPathType, Tree.atIdent, Tree.reserved, Tree.atWord, Tree.atOperator,
      Tree.atMarks] at begins
  | .punct .. :: _ | .literal _ :: _ | .group .. :: _ => rfl

theorem readType_spec (sound : g.GivesWritten) (plus : Bool) :
    ⦃fun ts => ⌜AreNamed ts⌝⦄ g.readType plus
      ⦃⇓? type ts => ⌜type.IsWritten ∧ AreNamed ts⌝⦄ := by
  have type := sound.type
  have quantifier := quantifier_spec sound
  have parenthesized := parenthesizedType_spec sound
  have function := functionType_spec sound
  have path := pathType_spec sound
  have object := objectBounds_spec sound
  have bounds := bounds_spec sound
  have inside := within_spec .bracket _ TypeExpr.IsWritten (insideBrackets_spec sound)
  mvcgen [readType, type, quantifier, parenthesized, function, builtin_spec, path, object, bounds,
    inside, guard]
  all_goals clear type quantifier parenthesized function path object bounds inside
  all_goals simp_all [TypeExpr.IsWritten]
  all_goals exact not_atWord_try (by simp_all [atPathType])

/-! ### All levels -/

theorem empty_givesWritten : empty.GivesWritten where
  type _ := by
    mvcgen [empty]
  bound _ := by
    mvcgen [empty]
  relaxed _ := by
    mvcgen [empty]

theorem GivesWritten.next (sound : g.GivesWritten) : g.next.GivesWritten where
  type := readType_spec sound
  bound := readBound_spec sound
  relaxed := readBound_relaxed g

theorem level_givesWritten (depth : Nat) : (level depth).GivesWritten := by
  induction depth with
  | zero => exact empty_givesWritten
  | succ depth sound => exact sound.next

end Grammar

/-- What is read as a type is written in order. -/
theorem TypeExpr.parse?_isWritten {text : String} {e : TypeExpr} (read : parse? text = some e) :
    e.IsWritten := by
  obtain ⟨tokens, lexed, trees, closed, whole⟩ :
      ∃ tokens, Lexer.tokens text.toList = some tokens ∧
        ∃ trees, Tree.ofTokens tokens = some trees ∧
          Reader.all? ((Grammar.covering tokens).type true) trees = some e := by
    simpa [parse?, Code.parse?, Option.bind_eq_some_iff] using read
  have named := Tree.ofTokens_areNamed (Lexer.tokens_areNamed lexed) closed
  unfold Reader.all? at whole
  split at whole
  next e' run =>
    cases whole
    have sound := (Grammar.level_givesWritten (3 * tokens.length + 8)).type true
    exact (Reader.triple_iff.mp sound trees named _ _ run).1
  next => cases whole

end Companion.Code

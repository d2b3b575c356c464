import Companion.Proofs.TypeRef.Rereading

/-! A type that is read from a text is read again from what it is written as.

Parentheses do not belong to a type, so that a reference to a sum of bounds is written without
those that it needs. No other type is lost.
-/

set_option autoImplicit false

namespace Companion

namespace Code

/-- Several bounds, perhaps in parentheses. -/
def TypeExpr.isSum : TypeExpr → Bool
  | .traitObject _ bounds _ => 1 < bounds.length
  | .parenthesized inner => inner.isSum
  | _ => false

mutual

/-- Whether a reference to a sum of bounds stands in the type, at any depth. -/
def TypeExpr.refersToSum : TypeExpr → Bool
  | .path _ path => path.refersToSum
  | .reference _ _ referent => referent.isSum || referent.refersToSum
  | .slice element => element.refersToSum
  | .array element _ => element.refersToSum
  | .tuple elements => typesReferToSum elements
  | .parenthesized inner => inner.refersToSum
  | .traitObject _ bounds _ => boundsReferToSum bounds
  | _ => false

def typesReferToSum : List TypeExpr → Bool
  | [] => false
  | e :: others => e.refersToSum || typesReferToSum others

def Path.refersToSum : Path → Bool
  | .mk _ segments => segmentsReferToSum segments

def segmentsReferToSum : List Segment → Bool
  | [] => false
  | segment :: others => segment.refersToSum || segmentsReferToSum others

def Segment.refersToSum : Segment → Bool
  | .mk _ arguments => arguments.referToSum

def Arguments.referToSum : Arguments → Bool
  | .angled arguments => argumentsReferToSum arguments
  | _ => false

def argumentsReferToSum : List Argument → Bool
  | [] => false
  | argument :: others => argument.refersToSum || argumentsReferToSum others

def Argument.refersToSum : Argument → Bool
  | .type type => type.refersToSum
  | .other => false

def boundsReferToSum : List Bound → Bool
  | [] => false
  | bound :: others => bound.refersToSum || boundsReferToSum others

def Bound.refersToSum : Bound → Bool
  | .trait path => path.refersToSum
  | _ => false

end

end Code

namespace TypeRef

open Code

theorem rereads_ofElements {ts : List TypeRef} {stalls : Bool} (read : AreReread ts stalls) :
    Rereads (ofElements ts) false stalls := by
  cases ts with
  | nil =>
    cases read
    exact rereads_unit
  | cons first others => exact rereads_tuple read

theorem hasTrait_of_mem {bounds : List Bound} (object : ∃ named, .trait named ∈ bounds) :
    Grammar.hasTrait bounds = true := by
  obtain ⟨named, member⟩ := object
  exact List.any_eq_true.mpr ⟨_, member, rfl⟩

theorem length_ofBounds {bounds : List Bound} {texts : List String}
    (same : ofBounds bounds = .ok texts) : texts.length = bounds.length := by
  induction bounds generalizing texts with
  | nil =>
    cases same
    rfl
  | cons b bounds ih =>
    cases b with
    | trait named =>
      obtain ⟨⟨name, arguments⟩, -, same⟩ := bind_eq_ok.mp same
      obtain ⟨others, more, same⟩ := bind_eq_ok.mp same
      cases same
      exact congrArg (· + 1) (ih more)
    | lifetime name =>
      obtain ⟨others, more, same⟩ := bind_eq_ok.mp same
      cases same
      exact congrArg (· + 1) (ih more)
    | capture => cases same
    | other => cases same

-- The induction follows `ofExpr`: a form that it refuses is no type that could be written.
mutual

theorem rereads_ofExpr : ∀ (e : TypeExpr) {t : TypeRef}, e.IsWritten → ofExpr e = .ok t →
    Rereads t e.isSum e.refersToSum
  | .path true _, _, _, same => nomatch same
  | .path false named, _, written, same => by
    obtain ⟨⟨name, arguments⟩, found, same⟩ := bind_eq_ok.mp same
    cases same
    obtain ⟨written, begins⟩ := written.resolve_left Bool.false_ne_true
    exact rereads_path written begins found (areReread_ofPath named written found)
  | .reference lifetime isMutable referent, _, written, same => by
    obtain ⟨t, found, same⟩ := bind_eq_ok.mp same
    cases same
    exact (rereads_ofExpr referent written.2 found).reference written.1 isMutable
  | .slice element, _, written, same => by
    obtain ⟨t, found, same⟩ := bind_eq_ok.mp same
    cases same
    exact (rereads_ofExpr element written found).slice
  | .array element none, _, _, same => nomatch same
  | .array element (some length), _, written, same => by
    obtain ⟨t, found, same⟩ := bind_eq_ok.mp same
    cases same
    obtain ⟨n, rfl⟩ := written.2 length rfl
    exact (rereads_ofExpr element written.1 found).array n
  | .tuple elements, _, written, same => by
    obtain ⟨ts, found, same⟩ := bind_eq_ok.mp same
    cases same
    exact rereads_ofElements (areReread_ofExprs elements written found)
  | .parenthesized inner, _, written, same => rereads_ofExpr inner written same
  | .traitObject _ bounds _, _, written, same => by
    obtain ⟨texts, found, same⟩ := bind_eq_ok.mp same
    cases same
    have read := areBoundsReread_ofBounds bounds written.1 found
    rw [hasTrait_of_mem written.2] at read
    rw [TypeExpr.isSum, ← length_ofBounds found]
    exact rereads_traitObject read
  | .implTrait _, _, _, same => nomatch same
  | .function _, _, _, same => nomatch same
  | .pointer _, _, _, same => nomatch same
  | .never, _, _, same => nomatch same
  | .macroCall _, _, _, same => nomatch same
  | .inferred, _, _, same => nomatch same
  | .other _, _, _, same => nomatch same

theorem areReread_ofExprs : ∀ (es : List TypeExpr) {ts : List TypeRef}, AreTypesWritten es →
    ofExprs es = .ok ts → AreReread ts (typesReferToSum es)
  | [], _, _, same => by
    cases same
    exact .nil
  | e :: es, _, written, same => by
    obtain ⟨t, first, same⟩ := bind_eq_ok.mp same
    obtain ⟨ts, more, same⟩ := bind_eq_ok.mp same
    cases same
    exact .cons (rereads_ofExpr e written.1 first) (areReread_ofExprs es written.2 more)

theorem areReread_ofPath : ∀ (path : Path) {name : String} {arguments : List TypeRef},
    path.IsWritten → ofPath path = .ok (name, arguments) → AreReread arguments path.refersToSum
  | .mk _ segments, _, _, written, same => by
    obtain ⟨⟨name, arguments⟩, found, same⟩ := bind_eq_ok.mp same
    cases same
    exact areReread_ofSegments segments written.2 found

theorem areReread_ofSegments : ∀ (segments : List Segment) {name : String}
    {arguments : List TypeRef}, AreSegmentsWritten segments →
    ofSegments segments = .ok (name, arguments) → AreReread arguments (segmentsReferToSum segments)
  | [], _, _, _, same => by
    cases same
    exact .nil
  | [.mk _ given], _, _, written, same => by
    obtain ⟨arguments, found, same⟩ := bind_eq_ok.mp same
    cases same
    simpa [segmentsReferToSum, Segment.refersToSum] using
      areReread_ofArguments given written.1.2.2 found
  | .mk _ .none :: second :: others, _, _, written, same => by
    obtain ⟨⟨name, arguments⟩, found, same⟩ := bind_eq_ok.mp same
    cases same
    simpa [segmentsReferToSum, Segment.refersToSum, Code.Arguments.referToSum] using
      areReread_ofSegments (second :: others) written.2 found
  | .mk _ (.angled _) :: _ :: _, _, _, _, same => nomatch same
  | .mk _ (.signature _) :: _ :: _, _, _, _, same => nomatch same

theorem areReread_ofArguments : ∀ (given : Code.Arguments) {arguments : List TypeRef},
    given.AreWritten → ofArguments given = .ok arguments → AreReread arguments given.referToSum
  | .none, _, _, same => by
    cases same
    exact .nil
  | .angled given, _, written, same => areReread_ofArgumentList given written same
  | .signature _, _, _, same => nomatch same

theorem areReread_ofArgumentList : ∀ (given : List Code.Argument) {arguments : List TypeRef},
    IsListWritten given → ofArgumentList given = .ok arguments →
    AreReread arguments (argumentsReferToSum given)
  | [], _, _, same => by
    cases same
    exact .nil
  | .type e :: others, _, written, same => by
    obtain ⟨t, first, same⟩ := bind_eq_ok.mp same
    obtain ⟨ts, more, same⟩ := bind_eq_ok.mp same
    cases same
    exact .cons (rereads_ofExpr e written.1 first) (areReread_ofArgumentList others written.2 more)
  | .other :: _, _, _, same => nomatch same

theorem areBoundsReread_ofBounds : ∀ (bounds : List Bound) {texts : List String},
    AreBoundsWritten bounds → ofBounds bounds = .ok texts →
    AreBoundsReread texts (Grammar.hasTrait bounds) (boundsReferToSum bounds)
  | [], _, _, same => by
    cases same
    exact .nil
  | .trait named :: others, _, written, same => by
    obtain ⟨⟨name, arguments⟩, first, same⟩ := bind_eq_ok.mp same
    obtain ⟨texts, more, same⟩ := bind_eq_ok.mp same
    cases same
    have read := areReread_ofPath named written.1 first
    exact .cons (boundRereads_trait written.1 first read)
      (areBoundsReread_ofBounds others written.2 more)
  | .lifetime name :: others, _, written, same => by
    obtain ⟨texts, more, same⟩ := bind_eq_ok.mp same
    cases same
    exact .cons (boundRereads_lifetime written.1) (areBoundsReread_ofBounds others written.2 more)
  | .capture :: _, _, _, same => nomatch same
  | .other _ :: _, _, _, same => nomatch same

end

/-- A text that is read again from the trees that it spells, or not at all. -/
theorem Rereads.parse {t : TypeRef} {sum stalls : Bool} (read : Rereads t sum stalls) :
    parse t.render = if stalls then .error (.invalid t.render) else .ok t := by
  obtain ⟨visible, spells⟩ := read
  obtain ⟨size, trees, e, spelled, -, same, reads⟩ := spells [] trivial
  have given := reads (3 * size + 8) (by omega) true [] endsItem_nil.1
  have parsed := parse?_of_spells (fun g => g.type true) spelled visible
  rw [List.append_nil] at given
  rw [Bool.not_true, Bool.false_and, Bool.or_false] at given
  rw [TypeRef.parse, TypeExpr.parse?, parsed]
  generalize found : ((Grammar.level (3 * size + 8)).type true).run trees = result at given
  cases given with
  | read =>
    rw [Reader.all?, found]
    simp only [same]
    rfl
  | stalled plus =>
    rw [Grammar.all?_of_plus found plus]
    rfl
  | failed =>
    rw [Reader.all?, found]
    rfl

/-- Whether a reference to a sum of bounds stands in the type that the text is. -/
def refersToSum (text : String) : Bool := (TypeExpr.parse? text).any TypeExpr.refersToSum

theorem exists_expr_of_parse {text : String} {t : TypeRef} (accepted : parse text = .ok t) :
    ∃ e, TypeExpr.parse? text = some e ∧ ofExpr e = .ok t := by
  unfold parse at accepted
  split at accepted
  next => cases accepted
  next e read =>
    refine ⟨e, read, ?_⟩
    cases found : ofExpr e with
    | error form => simp [found, Except.mapError] at accepted
    | ok t' => simpa [found, Except.mapError] using accepted

/-- A type that is read from a text is read again from what it is written as, unless a reference
to a sum of bounds stands in it: then what is written is no type. -/
theorem parse_render {text : String} {t : TypeRef} (accepted : parse text = .ok t) :
    parse t.render = if refersToSum text then .error (.invalid t.render) else .ok t := by
  obtain ⟨e, read, same⟩ := exists_expr_of_parse accepted
  rw [refersToSum, read]
  exact (rereads_ofExpr e (TypeExpr.parse?_isWritten read) same).parse

/-- The parentheses that a reference to a sum needs are not written. -/
theorem parse_render_sum : ∃ t, parse "&'static (dyn Display + Send)" = .ok t ∧
    t.render = "&'static dyn Display + Send" ∧ parse t.render = .error (.invalid t.render) := by
  obtain ⟨t, accepted, written⟩ : ∃ t, parse "&'static (dyn Display + Send)" = .ok t ∧
      t.render = "&'static dyn Display + Send" := map_eq_ok.mp (by decide +kernel)
  have lost := parse_render accepted
  rw [show refersToSum "&'static (dyn Display + Send)" = true by decide +kernel] at lost
  exact ⟨t, accepted, written, lost⟩

end TypeRef

end Companion

import Companion.Proofs.Code.Conditions
import Companion.Proofs.Contract.Findings

/-! What the checks of multiples and of bounds say of machine integers.

The text of a check is read as a condition, whose value is then compared with what the validator's
tag says of a number.
-/

set_option autoImplicit false

namespace Companion

namespace Code.Expression

theorem Value.integer?_integer (n : Int) : (integer n).integer? = some n := rfl

theorem Value.operand?_integer (n : Int) : (integer n).operand? = some n := rfl

variable {w : IntegerType} {scope : Scope} {i : Int}

theorem eval_ofInt :
    (ofInt i).eval w scope = if w.Admits i then some (.integer i) else none := by
  by_cases negative : i < 0
  · have opposite : -(i.natAbs : Int) = i := by omega
    have signed : w.Admits i → w.signed = true := fun admitted => by
      by_contra unsigned
      have := IntegerType.nonneg_of_admits (by simpa using unsigned) admitted
      omega
    rw [ofInt, if_pos negative, eval, opposite]
    by_cases admitted : w.Admits i
    · rw [if_pos ⟨signed admitted, admitted⟩, if_pos admitted]
    · rw [if_neg fun both => admitted both.2, if_neg admitted]
  · have same : (i.natAbs : Int) = i := by omega
    rw [ofInt, if_neg negative, eval, same]

theorem literals_ofInt : (ofInt i).literals = [i] := by
  by_cases negative : i < 0
  · have opposite : -(i.natAbs : Int) = i := by omega
    rw [ofInt, if_pos negative, literals, opposite]
  · have same : (i.natAbs : Int) = i := by omega
    rw [ofInt, if_neg negative, literals, same]

end Code.Expression

open Code (Expression)
open Code.Expression (Value Scope Stands IsOperand IsCondition ofInt)

/-- A value of a type of integers, or of references to such a type. -/
def TypeRef.referring : TypeRef → Int → Value
  | reference _ isMutable referent, n => .reference isMutable (referent.referring n)
  | _, n => .integer n

/-! ### Tests -/

/-- What a validator asks of a number and its argument. -/
inductive NumberTest where
  | multiple
  | compare (c : Comparison)
  deriving DecidableEq, Repr

namespace NumberTest

def validator : NumberTest → Validator
  | multiple => .multipleOf
  | compare c => .compare c

def Holds : NumberTest → Int → Int → Prop
  | multiple, i, n => i ∣ n
  | compare c, i, n => c.Holds n i

instance (test : NumberTest) (i n : Int) : Decidable (test.Holds i n) :=
  match test with
  | multiple => inferInstanceAs (Decidable (i ∣ n))
  | compare c => inferInstanceAs (Decidable (c.Holds n i))

/-- Whether the operator of the test stands on values of the type. -/
def Takes : NumberTest → TypeRef → Bool
  | multiple, .reference _ false referent => !referent.isReference
  | _, t => !t.isReference

def expression (test : NumberTest) (subject : Expression) (i : Int) : Expression :=
  match test with
  | multiple => .equal (.remainder subject (ofInt i)) (ofInt 0)
  | compare c => .compare c subject (ofInt i)

variable {test : NumberTest} {w : IntegerType} {scope : Scope} {subject : Expression} {t : TypeRef}
  {i n : Int}

theorem integer?_referring (c : Comparison) :
    (t.referring n).integer? = if (compare c).Takes t then some n else none := by
  cases t <;> rfl

theorem operand?_referring :
    (t.referring n).operand? = if multiple.Takes t then some n else none := by
  cases t with
  | reference lifetime isMutable referent =>
    cases isMutable <;> cases referent <;> rfl
  | _ => rfl

/-- A test has a value only if its operator stands on the subject and its number is one of the
type. -/
theorem eval_eq_none (value : subject.eval w scope = some (t.referring n))
    (wrong : ¬(w.Admits i ∧ test.Takes t)) : (test.expression subject i).eval w scope = none := by
  cases test with
  | multiple =>
    rw [expression, Expression.eval, Expression.eval, value, Code.Expression.eval_ofInt]
    simp only [Option.bind_eq_bind, Option.bind_some, operand?_referring]
    by_cases takes : multiple.Takes t = true
    · rw [if_neg fun admitted => wrong ⟨admitted, takes⟩]
      simp
    · simp [takes]
  | compare c =>
    rw [expression, Expression.eval, value, Code.Expression.eval_ofInt]
    simp only [Option.bind_eq_bind, Option.bind_some, integer?_referring c]
    by_cases takes : (compare c).Takes t = true
    · rw [if_neg fun admitted => wrong ⟨admitted, takes⟩]
      simp
    · simp [takes]

theorem eval_multiple (value : subject.eval w scope = some (t.referring n)) (divisor : w.Admits i)
    (takes : multiple.Takes t = true) :
    (multiple.expression subject i).eval w scope =
      (w.remainder? n i).map fun r => .truth (r = 0) := by
  rw [expression, Expression.eval, Expression.eval, value, Code.Expression.eval_ofInt,
    Code.Expression.eval_ofInt, if_pos divisor, if_pos IntegerType.admits_zero]
  simp only [Option.bind_eq_bind, Option.bind_some, operand?_referring, if_pos takes,
    Value.operand?_integer]
  cases w.remainder? n i <;> rfl

theorem eval_compare {c : Comparison} (value : subject.eval w scope = some (t.referring n))
    (bound : w.Admits i) (takes : (compare c).Takes t = true) :
    ((compare c).expression subject i).eval w scope = some (.truth (c.Holds n i)) := by
  rw [expression, Expression.eval, value, Code.Expression.eval_ofInt, if_pos bound]
  simp only [Option.bind_eq_bind, Option.bind_some, integer?_referring c, if_pos takes,
    Value.integer?_integer]
  rfl

/-- A test that has a value for every number says of each what the tag says. -/
theorem eval_eq_some (value : subject.eval w scope = some (t.referring n)) (admitted : w.Admits n)
    (right : w.Admits i ∧ test.Takes t) (nonzero : test = multiple → i ≠ 0)
    (whole : ¬(test = multiple ∧ w.signed = true ∧ i = -1)) :
    (test.expression subject i).eval w scope = some (.truth (test.Holds i n)) := by
  obtain ⟨number, takes⟩ := right
  cases test with
  | multiple =>
    have defined := IntegerType.remainder?_eq_some admitted number (nonzero rfl)
      fun signed other => whole ⟨rfl, signed, other⟩
    rw [eval_multiple value number takes, defined]
    simp [Holds, Int.dvd_iff_tmod_eq_zero]
  | compare c => exact eval_compare value number takes

/-- There is a number that has no remainder by minus one. -/
theorem eval_least (value : subject.eval w scope = some (t.referring w.least))
    (signed : w.signed = true) : (multiple.expression subject (-1)).eval w scope = none := by
  by_cases right : w.Admits (-1) ∧ multiple.Takes t
  · rw [eval_multiple value right.1 right.2, IntegerType.remainder?_least signed]
    rfl
  · exact eval_eq_none value right

theorem literals_expression (silent : subject.literals = []) :
    (∀ n ∈ (test.expression subject i).literals, w.Admits n) ↔ w.Admits i := by
  cases test with
  | multiple =>
    simp [expression, Expression.literals, silent, Code.Expression.literals_ofInt,
      IntegerType.admits_zero]
  | compare c => simp [expression, Expression.literals, silent, Code.Expression.literals_ofInt]

end NumberTest

/-! ### Elements -/

namespace Element

variable {e : Element} {test : NumberTest} {w : IntegerType} {i n : Int} {body : Expression}
  {rule : Validator.Rule}

/-- The type that the expression for the subject has. -/
def held (e : Element) : TypeRef :=
  if e.type.isNullable then e.type.valueType else e.type.dereferenced

/-- A value of the element that is there. -/
def carrying (e : Element) (n : Int) : Value :=
  if e.type.isNullable then .present (e.type.valueType.referring n) else e.type.referring n

/-- The element alone. -/
def scope (e : Element) (v : Value) : Scope := Scope.bind (fun _ => none) e.binding v

def subjectExpression (e : Element) : Expression :=
  if e.type.isNullable || e.type.isReference then .dereference (.name e.binding)
  else .name e.binding

def conditionExpression (e : Element) (body : Expression) : Expression :=
  if e.type.isNullable then .mapOr (.asRef (.name e.binding)) true e.binding body else body

theorem literals_subject : e.subjectExpression.literals = [] := by
  unfold subjectExpression
  split <;> rfl

theorem literals_condition : (e.conditionExpression body).literals = body.literals := by
  unfold conditionExpression
  split <;> rfl

theorem stands_subject (named : Code.Lexer.IsName e.binding.toList)
    (free : e.binding ∉ Code.Tree.reserved) :
    Stands e.subject.toList (IsOperand e.subjectExpression) := by
  unfold subject subjectExpression
  split
  · simpa using Stands.dereferenced named free
  · exact Stands.name named free

theorem visible_subject (named : Code.Lexer.IsName e.binding.toList) :
    Code.Visible e.subject.toList := by
  unfold subject
  split
  · exact ⟨'(', '*' :: (e.binding.toList ++ [')']), by simp, by decide, by decide⟩
  · exact .name named

/-- A check is read as what its rule is read as, unless the value is missing. -/
theorem ofText?_condition (named : Code.Lexer.IsName e.binding.toList)
    (free : e.binding ∉ Code.Tree.reserved) (visible : Code.Visible rule.condition.toList)
    (stands : Stands rule.condition.toList (IsCondition body)) :
    Expression.ofText? (e.condition rule) = some (e.conditionExpression body) := by
  unfold condition conditionExpression
  split
  · refine Code.Expression.ofText?_eq ?_ ?_
    · simpa using (Code.Visible.name named).append _
    · simpa using Stands.mapOr named free stands
  · exact Code.Expression.ofText?_eq visible stands

theorem scope_binding (v : Value) : e.scope v e.binding = some v := if_pos rfl

theorem eval_dereference {scope : Scope} {isMutable : Bool} {v : Value}
    (bound : scope e.binding = some (.reference isMutable v)) :
    (Expression.dereference (.name e.binding)).eval w scope = some v := by
  rw [Expression.eval, Expression.eval, bound]
  rfl

/-- The rule is looked at with the subject at hand, also where it may be missing. -/
theorem exists_scope (e : Element) (w : IntegerType) (n : Int) :
    ∃ scope, e.subjectExpression.eval w scope = some (e.held.referring n) ∧
      ∀ body, (e.conditionExpression body).eval w (e.scope (e.carrying n)) = body.eval w scope := by
  unfold subjectExpression conditionExpression held carrying
  by_cases nullable : e.type.isNullable = true
  · simp only [nullable, Bool.true_or, if_true]
    let content := e.type.valueType.referring n
    refine ⟨(e.scope (.present content)).bind e.binding (.reference false content),
      eval_dereference (if_pos rfl), fun body => ?_⟩
    rw [Expression.eval, Expression.eval, Expression.eval, scope_binding]
    rfl
  · simp only [nullable, Bool.false_eq_true, Bool.false_or, if_false]
    refine ⟨e.scope (e.type.referring n), ?_, fun body => rfl⟩
    have bound := scope_binding (e := e) (e.type.referring n)
    cases known : e.type with
    | reference lifetime isMutable referent =>
      rw [known] at bound
      exact eval_dereference bound
    | _ =>
      rw [known] at bound
      exact bound

/-- What is missing meets every condition. -/
theorem eval_absent (nullable : e.type.isNullable = true) :
    (e.conditionExpression body).eval w (e.scope .absent) = some (.truth true) := by
  rw [conditionExpression, if_pos nullable, Expression.eval, Expression.eval, Expression.eval,
    scope_binding]
  rfl

end Element

/-! ### Checks -/

/-- The text of a test on a type of integers. -/
def NumberTest.text (subject : String) (i : Int) : NumberTest → String
  | multiple => subject ++ " % " ++ toString i ++ " == " ++ "0"
  | compare c => subject ++ " " ++ c.symbol ++ " " ++ toString i

theorem NumberTest.stands_text (test : NumberTest) {e : Element}
    (named : Code.Lexer.IsName e.binding.toList) (free : e.binding ∉ Code.Tree.reserved)
    (i : Int) :
    Stands (test.text e.subject i).toList
      (IsCondition (test.expression e.subjectExpression i)) := by
  have subject := e.stands_subject named free
  cases test with
  | multiple =>
    have whole := (subject.remainder (.integer i)).related none (Stands.integer 0).product
    have zero : (toString (0 : Int)).toList = "0".toList := rfl
    rw [zero] at whole
    exact whole.of_eq (by simp [text, Expression.sign])
  | compare c =>
    have whole := subject.product.related (some c) (Stands.integer i).product
    exact whole.of_eq (by simp [text, Expression.sign])

theorem NumberTest.visible_text {e : Element} {test : NumberTest} {i : Int}
    (named : Code.Lexer.IsName e.binding.toList) :
    Code.Visible (test.text e.subject i).toList := by
  have visible := e.visible_subject named
  cases test <;> simpa [text] using visible.append _

namespace Validator

variable {t : TypeRef} {v : Validator} {label runtimePath subject : String} {i : Int64}

/-- On a type of integers an argument is written as it is. -/
theorem numericLiteral_of_isInteger (integer : t.isInteger = true) :
    (numericLiteral v label t (.integer i)).1 = toString i.toInt := by
  have small : t.isBigInteger = false := TypeRef.isNamed_apart (by decide) integer
  have whole : t.isFloat = false := TypeRef.not_isFloat (.inl integer)
  simp [numericLiteral, small, whole, Argument.display]

theorem zero_of_isInteger (integer : t.isInteger = true) : zero t = "0" := by
  have small : t.isBigInteger = false := TypeRef.isNamed_apart (by decide) integer
  have whole : t.isFloat = false := TypeRef.not_isFloat (.inl integer)
  simp [zero, small, whole]

theorem condition_of_isInteger {test : NumberTest} {r : Rule} (integer : t.isInteger = true)
    (made : (test.validator.rule runtimePath label t subject (some (.integer i))).1 = some r) :
    r.condition = test.text subject i.toInt := by
  cases test with
  | multiple =>
    have small : t.isBigInteger = false := TypeRef.isNamed_apart (by decide) integer
    simp only [NumberTest.validator, rule, Option.elim_some, multipleOfRule] at made
    split at made
    · cases made
    · cases made
      simp [NumberTest.text, numericLiteral_of_isInteger integer, zero_of_isInteger integer, small]
  | compare c =>
    simp only [NumberTest.validator, rule, Option.elim_some, compareRule] at made
    cases made
    simp [NumberTest.text, numericLiteral_of_isInteger integer]

/-- The uses of tests on a type of integers that nothing is wrong with. -/
theorem suits_test_iff {test : NumberTest} {argument : Option Argument}
    (integer : t.isInteger = true) :
    Suits t test.validator argument ↔
      ∃ i, argument = some (.integer i) ∧ (test = .multiple → i ≠ 0) := by
  cases test with
  | multiple =>
    constructor
    · rintro (_ | ⟨_, nonzero⟩)
      exact ⟨_, rfl, fun _ => nonzero⟩
    · rintro ⟨i, rfl, nonzero⟩
      exact .multipleOf (.inl integer) (nonzero rfl)
  | compare c =>
    constructor
    · intro suits
      cases suits with
      | compareInteger => exact ⟨_, rfl, nofun⟩
      | compareFloat float =>
        rw [TypeRef.not_isFloat (.inl integer)] at float
        cases float
    · rintro ⟨i, rfl, -⟩
      exact .compareInteger (by simp [TypeRef.isNumeric, integer])

end Validator

/-- What the check of a multiple or of a bound says of a machine integer, where nothing is found
wrong. The number it is written with may be none of the type, and the operator may not stand on what
the element refers to; then the check has no value. Otherwise its value for every number is what the
tag says, except that the remainder by minus one overflows. -/
theorem Descriptor.condition_of_test {d : Descriptor} {test : NumberTest} {w : IntegerType}
    {context : SynthesisContext} {e : Element} {s : Synthesis} {c : Contract}
    (known : Validator.ofTag? d.tag = some test.validator)
    (named : Code.Lexer.IsName e.binding.toList) (free : e.binding ∉ Code.Tree.reserved)
    (integer : IntegerType.ofType? e.subjectType = some w)
    (checked : d.synthesize context e = .ok s) (made : s.contract = some c)
    (silent : s.findings = []) :
    ∃ i, d.argument = some (.integer i) ∧
      ∃ condition, Expression.ofText? c.condition = some condition ∧
        ((∀ n ∈ condition.literals, w.Admits n) ↔ w.Admits i.toInt) ∧
        ((∀ n, w.Admits n → condition.eval w (e.scope (e.carrying n)) =
            some (.truth (test.Holds i.toInt n))) ↔
          w.Admits i.toInt ∧ test.Takes e.held ∧
            ¬(test = .multiple ∧ w.signed = true ∧ i.toInt = -1)) ∧
        (e.type.isNullable = true →
          condition.eval w (e.scope .absent) = some (.truth true)) := by
  have isInteger : e.subjectType.isInteger = true := by
    rw [← IntegerType.ofType?_isSome, integer]
    rfl
  have ordinary : test.validator ≠ .assignableTo := by cases test <;> exact nofun
  rw [synthesize, known] at checked
  cases checked
  obtain ⟨i, given, nonzero⟩ := (Validator.suits_test_iff isInteger).mp
    ((Validator.findings_eq_nil_iff ordinary).mp silent)
  rw [Validator.synthesize_of_argument ordinary (by simp [given])] at made
  obtain ⟨rule, ruled, rfl⟩ := Option.map_eq_some_iff.mp made
  rw [given] at ruled
  have text := Validator.condition_of_isInteger isInteger ruled
  have stands := test.stands_text named free i.toInt
  rw [← text] at stands
  have visible : Code.Visible rule.condition.toList := by
    rw [text]
    exact NumberTest.visible_text named
  refine ⟨i, given, e.conditionExpression (test.expression e.subjectExpression i.toInt),
    e.ofText?_condition named free visible stands, ?_, ⟨fun means => ?_, ?_⟩, e.eval_absent⟩
  · rw [e.literals_condition]
    exact NumberTest.literals_expression e.literals_subject
  · have right : w.Admits i.toInt ∧ test.Takes e.held = true := by
      by_contra wrong
      obtain ⟨scope, value, same⟩ := e.exists_scope w 0
      have told := means 0 IntegerType.admits_zero
      rw [same, NumberTest.eval_eq_none value wrong] at told
      cases told
    refine ⟨right.1, right.2, ?_⟩
    rintro ⟨rfl, signed, opposite⟩
    obtain ⟨scope, value, same⟩ := e.exists_scope w w.least
    have told := means w.least IntegerType.admits_least
    rw [same, opposite, NumberTest.eval_least value signed] at told
    cases told
  · rintro ⟨number, takes, whole⟩ n admitted
    obtain ⟨scope, value, same⟩ := e.exists_scope w n
    rw [same]
    refine NumberTest.eval_eq_some value admitted ⟨number, takes⟩ (fun multiple zero => ?_) whole
    exact nonzero multiple (Int64.toInt_inj.mp zero)

/-- No number of eight bits without a sign is a thousand, yet the bound is taken for one. -/
theorem Descriptor.condition_of_test_beyond :
    let context : SynthesisContext := ⟨⟨[]⟩, "::declgen::runtime"⟩
    let x : Element := ⟨"x", "x", .named "u8"⟩
    let small : Descriptor := ⟨"less_than", some (.integer 1000)⟩
    ∃ s c, small.synthesize context x = .ok s ∧ s.contract = some c ∧ s.findings = [] ∧
      ∃ condition, Expression.ofText? c.condition = some condition ∧
        ¬∀ n ∈ condition.literals, IntegerType.Admits ⟨false, 8⟩ n := by
  intro context x small
  have known : Validator.ofTag? small.tag = some (NumberTest.compare .less).validator := by
    decide +kernel
  have integer : IntegerType.ofType? x.subjectType = some ⟨false, 8⟩ := by decide +kernel
  have suits : Validator.Suits x.subjectType (.compare .less) small.argument :=
    .compareInteger (by decide +kernel)
  have named : Code.Lexer.IsName "x".toList :=
    .plain ⟨by decide, Chars.forall_mem_of_all (by decide)⟩
  have ordinary : Validator.compare .less ≠ .assignableTo := nofun
  have checked : small.synthesize context x =
      .ok (Validator.synthesize (.compare .less) context x small.argument) := by
    rw [synthesize, known]
    rfl
  have silent : (Validator.synthesize (.compare .less) context x small.argument).findings = [] :=
    (Validator.findings_eq_nil_iff ordinary).mpr suits
  obtain ⟨c, made⟩ := Option.isSome_iff_exists.mp (Validator.contract_isSome suits)
  obtain ⟨i, given, condition, read, literals, -⟩ :=
    condition_of_test (e := x) known named (by decide) integer checked made silent
  refine ⟨_, c, checked, made, silent, condition, read, fun admitted => ?_⟩
  cases given
  exact absurd (literals.mp admitted) (by decide)

end Companion

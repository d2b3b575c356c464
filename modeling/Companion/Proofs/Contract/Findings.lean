import Companion.Contract.Synthesis
import Companion.Proofs.Pattern.Anchoring
import Mathlib.Tactic.SplitIfs

/-! When a validator is found to be misused.

Each family of validators stands on types of its own and takes arguments of its own, and a misuse of
either kind is found, also where there is a check none the less. The type that counts is the one an
`Option` or else a reference leads to.
-/

set_option autoImplicit false

namespace Companion

namespace TypeRef

variable {t : TypeRef}

theorem isNamed_apart {names others : List String} (apart : ∀ name ∈ names, name ∉ others)
    (named : t.isNamed names = true) : t.isNamed others = false := by
  cases t with
  | path name arguments =>
    have listed := List.contains_iff_mem.mp named
    exact Bool.eq_false_iff.mpr fun also => apart _ listed (List.contains_iff_mem.mp also)
  | _ => cases named

/-- A type of whole numbers is no type of fractions. -/
theorem not_isFloat (whole : t.isInteger = true ∨ t.isBigInteger = true) : t.isFloat = false := by
  rcases whole with fixed | big
  · exact isNamed_apart (by decide) fixed
  · exact isNamed_apart (by decide) big

theorem isNamed_of_isNullable (nullable : t.isNullable = true) : t.isNamed ["Option"] = true := by
  unfold isNullable optionContent? at nullable
  split at nullable
  · simpa using nullable
  · cases nullable

/-- What is a collection itself is not the content of one that may be missing. -/
theorem not_isPlainCollection (nullable : t.isNullable = true) : t.isPlainCollection = false := by
  have option := isNamed_of_isNullable nullable
  cases t with
  | path name arguments =>
    rw [isPlainCollection, isNamed_apart (by decide) option,
      isNamed_apart (by decide) option, Bool.or_false]
    all_goals exact nofun
  | _ => cases option

theorem isCollection_of_elementType? {content : TypeRef} (held : t.elementType? = some content)
    (nullable : content.isNullable = true) : t.isCollection = true := by
  rw [elementType?, Option.ite_none_right_eq_some] at held
  obtain ⟨collection, held⟩ := held
  rw [isCollection] at collection ⊢
  cases once : t.dereferenced with
  | reference lifetime isMutable referent =>
    -- Of two references the second would be the collection, and what it refers to its content.
    rw [once] at collection held
    cases held
    rw [dereferenced, not_isPlainCollection nullable] at collection
    cases collection
  | _ => rwa [once] at collection

end TypeRef

namespace Validator

variable {v : Validator} {t : TypeRef} {a : Argument} {argument : Option Argument}
  {runtimePath label subject : String}

/-- The uses of validators on a type that nothing is wrong with, by the type and the argument. -/
inductive Suits (t : TypeRef) : Validator → Option Argument → Prop where
  | parity {even : Bool} {argument : Option Argument} :
    (t.isInteger ∨ t.isBigInteger) → Suits t (parity even) argument
  | multipleOf {i : Int64} :
    (t.isInteger ∨ t.isBigInteger) → i ≠ 0 → Suits t multipleOf (some (.integer i))
  | sign {c : Comparison} {argument : Option Argument} : t.isNumeric → Suits t (sign c) argument
  | compareInteger {c : Comparison} {i : Int64} :
    t.isNumeric → Suits t (compare c) (some (.integer i))
  | compareFloat {c : Comparison} {x : Float} : t.isFloat → Suits t (compare c) (some (.float x))
  | size {rule : SizeRule} {argument : Option Argument} :
    rule ≠ .atMost → rule ≠ .atLeast → t.isSized → Suits t (size rule) argument
  | limit {rule : SizeRule} {i : Int64} :
    rule = .atMost ∨ rule = .atLeast → t.isSized → 0 ≤ i →
      Suits t (size rule) (some (.integer i))
  | pattern {p : String} : t.isText → Pattern.isValid p → Suits t pattern (some (.text p))
  | order {ascending : Bool} {argument : Option Argument} :
    t.isCollection → ¬t.isMap → Suits t (strictOrder ascending) argument
  | elements {content : TypeRef} {argument : Option Argument} :
    t.isCollection → ¬t.isMap → t.elementType? = some content → content.isNullable →
      Suits t nonNullableElements argument

/-! ### Rules -/

/-- An outcome with a rule and without a misuse. -/
def Outcome.IsClean (outcome : Outcome) : Prop := outcome.1.isSome = true ∧ outcome.2 = []

/-- No rule is missing without a misuse that is to blame. -/
def Outcome.IsExplained (outcome : Outcome) : Prop := outcome.1 = none → outcome.2 ≠ []

theorem numericLiteral_findings :
    (numericLiteral v label t a).2 = [] ↔
      (∃ i, a = .integer i) ∨ ∃ x, a = .float x ∧ t.isFloat = true := by
  cases a with
  | integer i =>
    dsimp only [numericLiteral]
    cases t.isBigInteger <;> cases t.isFloat <;> simp
  | float x => cases float : t.isFloat <;> simp [numericLiteral, float]
  | bool | text => simp [numericLiteral]

theorem parityRule_isClean {even : Bool} : (parityRule even t subject).IsClean := by
  unfold parityRule
  cases t.isBigInteger <;> exact ⟨rfl, rfl⟩

theorem multipleOfRule_isClean_iff (whole : t.isInteger = true ∨ t.isBigInteger = true) :
    (multipleOfRule label t subject a).IsClean ↔ ∃ i, a = .integer i ∧ i ≠ 0 := by
  have findings : (numericLiteral multipleOf label t a).2 = [] ↔ _ := numericLiteral_findings
  cases a with
  | integer i =>
    by_cases zero : i = 0 <;> simp_all [multipleOfRule, Outcome.IsClean]
  | float | bool | text =>
    simp_all [multipleOfRule, Outcome.IsClean, TypeRef.not_isFloat whole]

theorem multipleOfRule_isExplained : (multipleOfRule label t subject a).IsExplained := by
  dsimp only [multipleOfRule, Outcome.IsExplained]
  split_ifs <;> simp

theorem compareRule_isClean_iff {c : Comparison} :
    (compareRule c label t subject a).IsClean ↔
      (∃ i, a = .integer i) ∨ ∃ x, a = .float x ∧ t.isFloat = true := by
  refine Iff.trans ⟨And.right, fun clean => ⟨rfl, clean⟩⟩ numericLiteral_findings

theorem limitRule_isClean_iff {rule : SizeRule} {operator phrase : String} :
    (limitRule rule operator phrase label subject a).IsClean ↔ ∃ i, a = .integer i ∧ 0 ≤ i := by
  cases a with
  | integer i => by_cases sign : 0 ≤ i <;> simp [limitRule, Outcome.IsClean, holds, sign]
  | float | bool | text => simp [limitRule, Outcome.IsClean]

theorem limitRule_isExplained {rule : SizeRule} {operator phrase : String} :
    (limitRule rule operator phrase label subject a).IsExplained := by
  unfold limitRule Outcome.IsExplained
  split
  · split <;> simp [holds]
  · simp

theorem patternRule_isClean_iff :
    (patternRule runtimePath label subject a).IsClean ↔
      ∃ p, a = .text p ∧ Pattern.isValid p = true := by
  cases a with
  | text p => cases valid : Pattern.isValid p <;> simp [patternRule, Outcome.IsClean, valid]
  | integer | float | bool => simp [patternRule, Outcome.IsClean]

theorem patternRule_isExplained :
    (patternRule runtimePath label subject a).IsExplained := by
  unfold patternRule Outcome.IsExplained
  split <;> simp

/-! ### Validators -/

theorem domain_integer : Domain.integer.contains t = true ↔ t.isInteger ∨ t.isBigInteger := by
  rw [Domain.contains, Bool.or_eq_true]

theorem domain_ordered : Domain.ordered.contains t = true ↔ t.isCollection ∧ ¬t.isMap := by
  rw [Domain.contains, Bool.and_eq_true, Bool.not_eq_true', Bool.not_eq_true]

theorem domain_optionCollection : Domain.optionCollection.contains t = true ↔
    t.isCollection ∧ ¬t.isMap ∧ ∃ content, t.elementType? = some content ∧ content.isNullable := by
  simp only [Domain.contains, Bool.and_eq_true, Bool.not_eq_true', Option.any_eq_true]
  constructor
  · rintro ⟨sequence, content, held, nullable⟩
    exact ⟨TypeRef.isCollection_of_elementType? held nullable, by simp [sequence], content, held,
      nullable⟩
  · rintro ⟨-, sequence, content, held, nullable⟩
    exact ⟨by simpa using sequence, content, held, nullable⟩

/-- A rule that takes an argument is clean only if the argument is there. -/
theorem isClean_elim_iff {f : Argument → Outcome} :
    (argument.elim (none, []) f : Outcome).IsClean ↔ ∃ a, argument = some a ∧ (f a).IsClean := by
  cases argument with
  | none => simp [Outcome.IsClean]
  | some a => simp

/-- The two limits on a size differ in words alone. -/
theorem limit_isClean_iff {rule : SizeRule} {operator phrase : String}
    (limits : rule = .atMost ∨ rule = .atLeast) (sized : t.isSized = true) :
    (argument.elim (none, []) (limitRule rule operator phrase label subject) : Outcome).IsClean ↔
      Suits t (size rule) argument := by
  rw [isClean_elim_iff]
  simp only [limitRule_isClean_iff]
  constructor
  · rintro ⟨a, rfl, i, rfl, sign⟩
    exact .limit limits sized sign
  · intro suits
    cases suits with
    | size most least => exact (limits.elim most least).elim
    | limit _ _ sign => exact ⟨_, rfl, _, rfl, sign⟩

theorem holds_isClean (condition phrase : String) : (holds condition phrase).IsClean := ⟨rfl, rfl⟩

/-- On a type that the validator stands on, its rule is clean for the arguments that it takes. -/
theorem rule_isClean_iff {domain : Domain} (known : v.domain? = some domain)
    (stands : domain.contains t = true) :
    (v.rule runtimePath label t subject argument).IsClean ↔ Suits t v argument := by
  cases v with
  | parity even =>
    cases known
    exact iff_of_true parityRule_isClean (.parity (domain_integer.mp stands))
  | multipleOf =>
    cases known
    have whole := domain_integer.mp stands
    rw [rule, isClean_elim_iff]
    simp only [multipleOfRule_isClean_iff whole]
    constructor
    · rintro ⟨a, rfl, i, rfl, nonzero⟩
      exact .multipleOf whole nonzero
    · intro suits
      cases suits with
      | multipleOf _ nonzero => exact ⟨_, rfl, _, rfl, nonzero⟩
  | sign c =>
    cases known
    exact iff_of_true (holds_isClean ..) (.sign stands)
  | compare c =>
    cases known
    rw [rule, isClean_elim_iff]
    simp only [compareRule_isClean_iff]
    constructor
    · rintro ⟨a, rfl, ⟨i, rfl⟩ | ⟨x, rfl, float⟩⟩
      · exact .compareInteger stands
      · exact .compareFloat float
    · intro suits
      cases suits with
      | compareInteger => exact ⟨_, rfl, .inl ⟨_, rfl⟩⟩
      | compareFloat float => exact ⟨_, rfl, .inr ⟨_, rfl, float⟩⟩
  | size rule =>
    cases known
    cases rule with
    | atMost => exact limit_isClean_iff (.inl rfl) stands
    | atLeast => exact limit_isClean_iff (.inr rfl) stands
    | _ => exact iff_of_true (holds_isClean ..) (.size nofun nofun stands)
  | pattern =>
    cases known
    rw [rule, isClean_elim_iff]
    simp only [patternRule_isClean_iff]
    constructor
    · rintro ⟨a, rfl, p, rfl, valid⟩
      exact .pattern stands valid
    · intro suits
      cases suits with
      | pattern _ valid => exact ⟨_, rfl, _, rfl, valid⟩
  | strictOrder ascending =>
    cases known
    obtain ⟨collection, sequence⟩ := domain_ordered.mp stands
    exact iff_of_true (holds_isClean ..) (.order collection sequence)
  | nonNullableElements =>
    cases known
    obtain ⟨collection, sequence, content, held, nullable⟩ := domain_optionCollection.mp stands
    exact iff_of_true ⟨rfl, rfl⟩ (.elements collection sequence held nullable)
  | assignableTo => cases known

/-- A validator stands on every type that a use of it suits. -/
theorem Suits.contains (suits : Suits t v argument) :
    ∃ domain, v.domain? = some domain ∧ domain.contains t = true := by
  cases suits with
  | parity whole | multipleOf whole => exact ⟨_, rfl, domain_integer.mpr whole⟩
  | sign numeric | compareInteger numeric => exact ⟨_, rfl, numeric⟩
  | compareFloat float => exact ⟨.numeric, rfl, by simp [Domain.contains, TypeRef.isNumeric, float]⟩
  | size _ _ sized | limit _ sized => exact ⟨_, rfl, sized⟩
  | pattern text => exact ⟨_, rfl, text⟩
  | order collection sequence => exact ⟨_, rfl, domain_ordered.mpr ⟨collection, sequence⟩⟩
  | elements collection sequence held nullable =>
    exact ⟨_, rfl, domain_optionCollection.mpr ⟨collection, sequence, _, held, nullable⟩⟩

/-- A validator that needs an argument suits no use without one. -/
theorem Suits.argument_isSome (suits : Suits t v argument) (needed : v.needsArgument = true) :
    argument.isSome = true := by
  cases suits with
  | multipleOf | compareInteger | compareFloat | limit | pattern => rfl
  | @size rule _ most least =>
    cases rule with
    | atMost => exact absurd rfl most
    | atLeast => exact absurd rfl least
    | _ => cases needed
  | parity | sign | order | elements => cases needed

theorem rule_isExplained (given : v.needsArgument = true → argument.isSome = true)
    (ordinary : v ≠ .assignableTo) :
    (v.rule runtimePath label t subject argument).IsExplained := by
  cases v with
  | assignableTo => exact absurd rfl ordinary
  | multipleOf =>
    obtain ⟨a, rfl⟩ := Option.isSome_iff_exists.mp (given rfl)
    exact multipleOfRule_isExplained
  | pattern =>
    obtain ⟨a, rfl⟩ := Option.isSome_iff_exists.mp (given rfl)
    exact patternRule_isExplained
  | compare c =>
    obtain ⟨a, rfl⟩ := Option.isSome_iff_exists.mp (given rfl)
    exact nofun
  | size rule =>
    cases rule with
    | atMost | atLeast =>
      obtain ⟨a, rfl⟩ := Option.isSome_iff_exists.mp (given rfl)
      exact limitRule_isExplained
    | _ => exact nofun
  | parity even =>
    have there : (parityRule even t subject).1.isSome = true := parityRule_isClean.1
    exact fun absent => absurd absent (Option.isSome_iff_ne_none.mp there)
  | _ => exact nofun

/-! ### Checks -/

variable {context : SynthesisContext} {e : Element}

theorem synthesize_of_argument (ordinary : v ≠ .assignableTo)
    (given : v.needsArgument = true → argument.isSome = true) :
    v.synthesize context e argument =
      ⟨(v.rule context.runtimePath e.label e.subjectType e.subject argument).1.map (e.contract v),
        e.applicability v ++
          (v.rule context.runtimePath e.label e.subjectType e.subject argument).2⟩ := by
  have there : (v.needsArgument && argument.isNone) = false := by
    cases needed : v.needsArgument with
    | false => rfl
    | true => rw [Bool.true_and, Option.isNone_eq_false_iff, given needed]
  rw [synthesize, there, if_neg Bool.false_ne_true, if_neg ordinary]

theorem applicability_eq_nil_iff {domain : Domain} (known : v.domain? = some domain) :
    e.applicability v = [] ↔ domain.contains e.subjectType = true := by
  rw [Element.applicability, known]
  dsimp only
  split <;> simp_all

theorem domain?_isSome (ordinary : v ≠ .assignableTo) : ∃ domain, v.domain? = some domain := by
  cases v with
  | assignableTo => exact absurd rfl ordinary
  | _ => exact ⟨_, rfl⟩

/-- Nothing is found exactly where the use suits, and then there is a check. -/
theorem findings_eq_nil_iff (ordinary : v ≠ .assignableTo) :
    (v.synthesize context e argument).findings = [] ↔ Suits e.subjectType v argument := by
  by_cases given : v.needsArgument = true → argument.isSome = true
  · obtain ⟨domain, known⟩ := domain?_isSome ordinary
    rw [synthesize_of_argument ordinary given]
    dsimp only
    rw [List.append_eq_nil_iff, applicability_eq_nil_iff known]
    constructor
    · rintro ⟨stands, silent⟩
      refine (rule_isClean_iff known stands).mp ⟨?_, silent⟩
      exact Option.isSome_iff_ne_none.mpr fun absent =>
        rule_isExplained given ordinary absent silent
    · intro suits
      obtain ⟨domain', known', stands⟩ := suits.contains
      cases known.symm.trans known'
      exact ⟨stands, ((rule_isClean_iff known stands).mpr suits).2⟩
  · obtain ⟨needed, missing⟩ := Classical.not_imp.mp given
    have absent : (v.needsArgument && argument.isNone) = true := by simp_all
    rw [synthesize, absent, if_pos rfl]
    exact iff_of_false (List.cons_ne_nil _ _) fun suits => missing (suits.argument_isSome needed)

theorem contract_isSome (suits : Suits e.subjectType v argument) :
    (v.synthesize context e argument).contract.isSome = true := by
  obtain ⟨domain, known, stands⟩ := suits.contains
  have ordinary : v ≠ .assignableTo := by
    rintro rfl
    cases known
  rw [synthesize_of_argument ordinary suits.argument_isSome, Option.isSome_map]
  exact ((rule_isClean_iff known stands).mpr suits).1

theorem contract_assignableTo :
    (assignableTo.synthesize context e argument).contract = none := by
  unfold synthesize
  split_ifs <;> rfl

end Validator

/-- Every use of a known validator that something is wrong with is reported, and no other is.
Whether a type can stand for another is looked at in its own way, and never gives a check. -/
theorem Descriptor.findings_exact {d : Descriptor} {v : Validator}
    (known : Validator.ofTag? d.tag = some v) (context : SynthesisContext) (e : Element) :
    ∃ s, d.synthesize context e = .ok s ∧
      (s.contract.isSome = true ∧ s.findings = [] ↔ v.Suits e.subjectType d.argument) ∧
      (¬v.Suits e.subjectType d.argument → v ≠ .assignableTo → s.findings ≠ []) ∧
      (s.contract = none → s.findings ≠ [] ∨ v = .assignableTo) := by
  have checked : d.synthesize context e = .ok (v.synthesize context e d.argument) := by
    rw [synthesize, known]
  refine ⟨_, checked, ?_⟩
  by_cases ordinary : v = .assignableTo
  · subst ordinary
    have absent : (Validator.assignableTo.synthesize context e d.argument).contract = none :=
      Validator.contract_assignableTo
    refine ⟨iff_of_false ?_ nofun, fun _ other => absurd rfl other, fun _ => .inr rfl⟩
    rw [absent]
    exact nofun
  · have silent : (v.synthesize context e d.argument).findings = [] ↔ _ :=
      Validator.findings_eq_nil_iff ordinary
    refine ⟨⟨fun clean => silent.mp clean.2, fun suits =>
      ⟨Validator.contract_isSome suits, silent.mpr suits⟩⟩, fun other _ => mt silent.mp other,
      fun absent => .inl fun clean => ?_⟩
    have there : (v.synthesize context e d.argument).contract.isSome = true :=
      Validator.contract_isSome (silent.mp clean)
    rw [absent] at there
    cases there

/-- Multiples of three, of a number that may be missing and is referred to if it is not. -/
theorem Descriptor.findings_exact_option :
    let context : SynthesisContext := ⟨⟨[]⟩, "::declgen::runtime"⟩
    let count : Element := ⟨"count", "count", .path "Option" [.reference none false (.named "u32")]⟩
    let threes : Descriptor := ⟨" Multiple-Of", some (.integer 3)⟩
    ∃ s, threes.synthesize context count = .ok s ∧ s.contract.isSome = true ∧ s.findings = [] := by
  intro context count threes
  obtain ⟨s, checked, clean, -⟩ :=
    findings_exact (d := threes) (v := .multipleOf) (by decide +kernel) context count
  exact ⟨s, checked, clean.mpr (.multipleOf (.inl (by decide +kernel)) (by decide))⟩

end Companion

/-! ### Patterns of validators

A pattern is looked at by itself when the check of a text is made, and is put between the ends of
the text when the check is run.
-/

namespace Companion

open Pattern

theorem Pattern.isValid_of_matchesWhole {p value : String} (found : matchesWhole p value = true) :
    isValid (anchored p) = true := by
  obtain ⟨node, parsed, -⟩ := (Option.any_eq_true _ _).1 found
  exact Option.isSome_iff_exists.2 ⟨node, parsed⟩

theorem Validator.suits_pattern_iff {t : TypeRef} {p : String} (text : t.isText = true) :
    Suits t pattern (some (.text p)) ↔ Pattern.isValid p = true := by
  constructor
  · intro suits
    cases suits with
    | pattern _ valid => exact valid
  · exact .pattern text

/-- A pattern is accepted if it is one, within the limits. It is one in the check then too, unless a
comment takes the end of the group around it; and a pattern that is refused is one there only if it
closes this group itself. What is none there matches nothing. -/
theorem Descriptor.pattern_agrees {d : Descriptor} {p : String} {context : SynthesisContext}
    {e : Element} {s : Synthesis} (known : Validator.ofTag? d.tag = some .pattern)
    (given : d.argument = some (.text p)) (text : e.subjectType.isText = true)
    (checked : d.synthesize context e = .ok s) :
    (s.findings = [] ↔ isWellFormed p = true ∧ isWithinLimits p = true) ∧
      (isWellFormed p = true → (isWellFormed (anchored p) = true ↔ ¬CommentsOutEnd p)) ∧
      (isWellFormed p = false → isWellFormed (anchored p) = true → ClosesGroup p) ∧
      ∀ value, matchesWhole p value = true →
        isWellFormed (anchored p) = true ∧ isWithinLimits (anchored p) = true := by
  rw [synthesize, known] at checked
  cases checked
  refine ⟨?_, isWellFormed_anchored_iff, closesGroup_of_anchored, fun value found => ?_⟩
  · have ordinary : Validator.pattern ≠ .assignableTo := by decide
    rw [Validator.findings_eq_nil_iff ordinary, given, Validator.suits_pattern_iff text]
    exact isValid_iff
  · exact isValid_iff.1 (isValid_of_matchesWhole found)

/-- A pattern that closes the group around it is refused, and yet it matches. -/
theorem Descriptor.pattern_agrees_closing :
    let context : SynthesisContext := ⟨⟨[]⟩, "::declgen::runtime"⟩
    let name : Element := ⟨"name", "name", .named "String"⟩
    let closing : Descriptor := ⟨"regex", some (.text "a)(?:b")⟩
    ∃ s, closing.synthesize context name = .ok s ∧ s.findings ≠ [] ∧
      ClosesGroup "a)(?:b" ∧ matchesWhole "a)(?:b" "ab" = true := by
  intro context name closing
  have known : Validator.ofTag? closing.tag = some .pattern := by decide +kernel
  have ill : isWellFormed "a)(?:b" = false := by decide +kernel
  have found : matchesWhole "a)(?:b" "ab" = true := by decide +kernel
  obtain ⟨s, checked⟩ : ∃ s, closing.synthesize context name = .ok s := by
    rw [synthesize, known]
    exact ⟨_, rfl⟩
  obtain ⟨accepted, -, closes, runs⟩ :=
    pattern_agrees (e := name) known rfl (by decide +kernel) checked
  refine ⟨s, checked, fun silent => ?_, closes ill (runs "ab" found).1, found⟩
  rw [(accepted.1 silent).1] at ill
  cases ill

end Companion

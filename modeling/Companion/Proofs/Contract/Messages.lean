import Companion.Contract.Synthesis
import Companion.Proofs.Json.Compact
import Companion.Proofs.Text.FormatString

/-! What the message of a check says.

Whatever a user wrote is doubled once, where it becomes part of a template, so that a message says
it as it was written. The only hole is that of the value.
-/

set_option autoImplicit false

namespace Companion

/-- An integer is shown without dollar signs. -/
theorem Argument.escape_display_integer (i : Int64) :
    Template.escape (Argument.integer i).display = (Argument.integer i).display := by
  apply Template.escape_of_not_mem
  intro member
  have digit := Json.integer_subset i.toInt member
  revert digit
  decide

namespace Validator

variable {v : Validator} {a : Argument} {argument : Option Argument} {r : Rule}
  {label runtimePath subject : String} {t : TypeRef}

/-- The phrase is the template of a text, which has the argument in it if the validator takes
one. -/
def Rule.Shows (r : Rule) (v : Validator) (argument : Option Argument) : Prop :=
  ∃ text, r.phrase = Template.escape text ∧
    (v.needsArgument = true → ∃ a, argument = some a ∧ a.display.toList <:+: text.toList)

theorem Rule.shows_words (words : String) (plain : '$' ∉ words.toList)
    (alone : v.needsArgument = false) (known : r.phrase = words) : r.Shows v argument := by
  refine ⟨words, known.trans (Template.escape_of_not_mem plain).symm, fun needed => ?_⟩
  rw [alone] at needed
  cases needed

theorem Rule.shows_argument (front back : String) (plain : '$' ∉ front.toList)
    (plain' : '$' ∉ back.toList) (known : r.phrase = front ++ Template.escape a.display ++ back) :
    r.Shows v (some a) := by
  refine ⟨front ++ a.display ++ back, ?_, fun _ => ⟨a, rfl, ?_⟩⟩
  · rw [known, Template.escape_append, Template.escape_append, Template.escape_of_not_mem plain,
      Template.escape_of_not_mem plain']
  · rw [String.toList_append, String.toList_append]
    exact List.infix_append ..

theorem shows_parityRule {even : Bool} (known : (parityRule even t subject).1 = some r) :
    r.Shows (.parity even) argument := by
  have words : r.phrase = if even then "even" else "uneven" := by
    rw [parityRule, apply_ite Prod.fst, holds, holds, ite_eq_iff] at known
    rcases known with ⟨-, same⟩ | ⟨-, same⟩ <;> cases same <;> rfl
  refine Rule.shows_words _ ?_ rfl words
  cases even <;> decide

theorem shows_multipleOfRule (known : (multipleOfRule label t subject a).1 = some r) :
    r.Shows .multipleOf (some a) := by
  dsimp only [multipleOfRule] at known
  rw [apply_ite Prod.fst, ite_eq_iff] at known
  rcases known with ⟨-, same⟩ | ⟨-, same⟩
  · cases same
  · cases same
    exact Rule.shows_argument "a multiple of " "" (by decide) (by decide) String.append_empty.symm

theorem shows_compareRule {c : Comparison} (known : (compareRule c label t subject a).1 = some r) :
    r.Shows (.compare c) (some a) := by
  cases known
  refine Rule.shows_argument (comparisonPhrase c ++ " ") "" ?_ (by decide) String.append_empty.symm
  cases c <;> decide

theorem shows_limitRule {rule : SizeRule} {operator phrase : String}
    (plain : '$' ∉ (phrase ++ " ").toList)
    (known : (limitRule rule operator phrase label subject a).1 = some r) :
    r.Shows (.size rule) (some a) := by
  unfold limitRule at known
  split at known
  · next i =>
    split at known
    · cases known
      -- The limit is put in without doubling, which an integer does not need.
      apply Rule.shows_argument (phrase ++ " ") "" plain (by decide)
      rw [Argument.escape_display_integer, String.append_empty]
    · cases known
  · cases known

theorem shows_patternRule (known : (patternRule runtimePath label subject a).1 = some r) :
    r.Shows .pattern (some a) := by
  unfold patternRule at known
  split at known
  · next p =>
    cases known
    exact Rule.shows_argument "match the regular expression \"" "\"" (by decide) (by decide) rfl
  · cases known

/-- A rule that takes an argument is there only if the argument is. -/
theorem exists_argument {f : Argument → Outcome}
    (known : (argument.elim (none, []) f : Outcome).1 = some r) :
    ∃ a, argument = some a ∧ (f a).1 = some r := by
  cases argument with
  | none => cases known
  | some a => exact ⟨a, rfl, known⟩

/-- What a rule says is a text with the argument in it, if the validator takes one. -/
theorem shows_rule (known : (v.rule runtimePath label t subject argument).1 = some r) :
    r.Shows v argument := by
  cases v with
  | parity even => exact shows_parityRule known
  | multipleOf =>
    obtain ⟨a, rfl, known⟩ := exists_argument known
    exact shows_multipleOfRule known
  | sign c =>
    cases known
    exact Rule.shows_words (signPhrase c) (by cases c <;> decide) rfl rfl
  | compare c =>
    obtain ⟨a, rfl, known⟩ := exists_argument known
    exact shows_compareRule known
  | size rule =>
    cases rule with
    | nonEmpty =>
      cases known
      exact Rule.shows_words "not zero" (by decide) rfl rfl
    | empty =>
      cases known
      exact Rule.shows_words "zero" (by decide) rfl rfl
    | emptyOrSingle =>
      cases known
      exact Rule.shows_words "zero or one" (by decide) rfl rfl
    | atMost =>
      obtain ⟨a, rfl, known⟩ := exists_argument known
      exact shows_limitRule (by decide) known
    | atLeast =>
      obtain ⟨a, rfl, known⟩ := exists_argument known
      exact shows_limitRule (by decide) known
  | pattern =>
    obtain ⟨a, rfl, known⟩ := exists_argument known
    exact shows_patternRule known
  | strictOrder ascending =>
    cases known
    exact Rule.shows_words (if ascending then "strictly ascending" else "strictly descending")
      (by cases ascending <;> decide) rfl rfl
  | nonNullableElements =>
    cases known
    exact Rule.shows_words "contain no None elements" (by decide) rfl rfl
  | assignableTo => cases known

end Validator

/-! ### Messages -/

/-- A message says the label and what the rule says, and then the value. -/
theorem Element.exists_message (e : Element) (v : Validator) {r : Validator.Rule} {text : String}
    (words : r.phrase = Template.escape text) :
    ∃ front middle, e.message v r =
      Template.escape (front ++ e.label ++ middle ++ text) ++ " but was $." := by
  -- The four forms of a message differ only in fixed words around the label.
  have put (front middle : String) (plain : '$' ∉ front.toList) (plain' : '$' ∉ middle.toList) :
      Template.escape (front ++ e.label ++ middle ++ text) =
        front ++ Template.escape e.label ++ middle ++ r.phrase := by
    rw [Template.escape_append, Template.escape_append, Template.escape_append,
      Template.escape_of_not_mem plain, Template.escape_of_not_mem plain', words]
  unfold message
  cases v.isSize with
  | true =>
    cases e.type.isNullable with
    | true =>
      exact ⟨"The ", " has to be None or have a size of ", by rw [put _ _ (by decide) (by decide)]⟩
    | false => exact ⟨"The size of ", " has to be ", by rw [put _ _ (by decide) (by decide)]⟩
  | false =>
    cases e.type.isNullable with
    | true => exact ⟨"The ", " has to be None or ", by rw [put _ _ (by decide) (by decide)]⟩
    | false =>
      refine ⟨"The ", " has to " ++ (if r.afterBe then "be " else ""), ?_⟩
      rw [put _ _ (by decide) (by cases r.afterBe <;> decide)]
      simp only [String.append_assoc]

theorem Validator.contract_of_synthesize {v : Validator} {context : SynthesisContext} {e : Element}
    {argument : Option Argument} {c : Contract}
    (found : (v.synthesize context e argument).contract = some c) :
    ∃ r, (v.rule context.runtimePath e.label e.subjectType e.subject argument).1 = some r ∧
      c = e.contract v r := by
  unfold synthesize at found
  split at found
  · cases found
  · split at found
    · cases found
    · obtain ⟨r, known, same⟩ := Option.map_eq_some_iff.mp found
      exact ⟨r, known, same.symm⟩

/-- What is given to a validator that takes no argument is not looked at. -/
theorem Validator.synthesize_of_alone {v : Validator} (alone : v.needsArgument = false)
    (context : SynthesisContext) (e : Element) (argument other : Option Argument) :
    v.synthesize context e argument = v.synthesize context e other := by
  cases v with
  | size rule => cases rule <;> first | rfl | cases alone
  | parity | sign | strictOrder | nonNullableElements => rfl
  | multipleOf | compare | pattern | assignableTo => cases alone

/-- The argument of a validator that takes one. Another one has none, whatever is given to it. -/
def Descriptor.taken? (d : Descriptor) : Option Argument :=
  if (Validator.ofTag? d.tag).any Validator.needsArgument then d.argument else none

theorem Descriptor.synthesize_of_ofTag? {d : Descriptor} {v : Validator}
    (tagged : Validator.ofTag? d.tag = some v) (context : SynthesisContext) (e : Element) :
    d.synthesize context e = .ok (v.synthesize context e d.argument) := by
  unfold synthesize
  rw [tagged]

theorem Descriptor.taken?_of_ofTag? {d : Descriptor} {v : Validator}
    (tagged : Validator.ofTag? d.tag = some v) :
    d.taken? = if v.needsArgument then d.argument else none := by
  rw [taken?, tagged, Option.any_some]

theorem Descriptor.synthesize_taken? (d : Descriptor) (context : SynthesisContext) (e : Element) :
    (⟨d.tag, d.taken?⟩ : Descriptor).synthesize context e = d.synthesize context e := by
  unfold synthesize
  cases tagged : Validator.ofTag? d.tag with
  | none => rfl
  | some v =>
    rw [taken?_of_ofTag? tagged]
    cases needed : v.needsArgument with
    | true => rfl
    | false => exact congrArg Except.ok (Validator.synthesize_of_alone needed ..)

/-- A template that says a text and then shows a value. -/
theorem Template.substitute_shown (said value : String) :
    Template.substitute (Template.escape said ++ " but was $.") [value] =
      said ++ " but was " ++ value ++ "." := by
  have shown : Template.fill " but was $.".toList [value.toList] =
      (" but was " ++ value ++ ".").toList := by
    simp [Template.fill]
  rw [Template.substitute_escape_append, Template.substitute, List.map_singleton, shown,
    String.ofList_toList, ← String.append_assoc, ← String.append_assoc]

theorem Template.holes_shown (said : String) :
    Template.holes (Template.escape said ++ " but was $.") = 1 := by
  rw [Template.holes_escape_append]
  decide

/-- What the message of a check comes to: whoever fills it, it says the label, the argument and the
value as they were written. -/
structure Contract.Quotes (c : Contract) (label : String) (argument : Option Argument) : Prop where
  holes_eq : Template.holes c.message = 1
  arguments_length : c.arguments.length = 1
  /-- One text stands before every value. -/
  substitute_eq : ∃ said, label.toList <:+: said.toList ∧
    (∀ a ∈ argument, a.display.toList <:+: said.toList) ∧
    ∀ value, Template.substitute c.message [value] = said ++ " but was " ++ value ++ "."
  format_eq : ∀ value, FormatString.format (Template.toFormat c.message) [value] =
    .ok (Template.substitute c.message [value])

theorem Element.quotes_contract (e : Element) {v : Validator} {r : Validator.Rule}
    {argument : Option Argument} (shows : r.Shows v argument) :
    (e.contract v r).Quotes e.label (if v.needsArgument then argument else none) := by
  obtain ⟨text, words, given⟩ := shows
  obtain ⟨front, middle, message⟩ := e.exists_message v words
  have one : Template.holes (e.contract v r).message = 1 := by
    rw [contract, message, Template.holes_shown]
  refine ⟨one, rfl, ⟨front ++ e.label ++ middle ++ text, ?_, ?_, fun value => ?_⟩,
    fun value => FormatString.format_toFormat_of_each one⟩
  · refine ⟨front.toList, (middle ++ text).toList, ?_⟩
    simp only [String.toList_append, List.append_assoc]
  · intro a taken
    cases needed : v.needsArgument with
    | false => simp [needed] at taken
    | true =>
      rw [if_pos needed] at taken
      obtain ⟨b, known, shown⟩ := given needed
      cases taken.symm.trans known
      rw [String.toList_append]
      exact shown.trans (List.suffix_append ..).isInfix
  · rw [contract, message, Template.substitute_shown]

/-- Whatever the element, the validator and the texts in them, and nothing but the tag and the
argument of the validator is looked at. -/
theorem Descriptor.quotes_of_synthesize {context : SynthesisContext} {e : Element}
    {d : Descriptor} {s : Synthesis} {c : Contract} (checked : d.synthesize context e = .ok s)
    (found : s.contract = some c) :
    c.Quotes e.label d.taken? ∧
      (⟨d.tag, d.taken?⟩ : Descriptor).synthesize context e = .ok s := by
  refine ⟨?_, (d.synthesize_taken? context e).trans checked⟩
  unfold synthesize at checked
  split at checked
  · next v tagged =>
    cases checked
    obtain ⟨r, known, rfl⟩ := Validator.contract_of_synthesize found
    rw [taken?_of_ofTag? tagged]
    exact e.quotes_contract (Validator.shows_rule known)
  · cases checked

/-- A label with a hole's sign and braces, and a pattern with the same and quotes. -/
theorem Descriptor.quotes_price :
    let context : SynthesisContext := ⟨⟨[]⟩, "::declgen::runtime"⟩
    let price : Element := ⟨"price \x7b$\x7d", "price", .named "String"⟩
    let pattern := "^\"\\$$\x7b2\x7d\"$"
    let regex : Descriptor := ⟨"regex", some (.text pattern)⟩
    ∃ s c, regex.synthesize context price = .ok s ∧ s.contract = some c ∧
      Template.substitute c.message ["\"$5\""] =
        "The price \x7b$\x7d has to match the regular expression \"" ++ pattern ++
          "\" but was \"$5\"." ∧
      c.Quotes price.label (some (.text pattern)) := by
  intro context price pattern regex
  have tagged : Validator.ofTag? regex.tag = some .pattern := by decide +kernel
  have quoted := (quotes_of_synthesize (synthesize_of_ofTag? tagged context price) rfl).1
  rw [taken?_of_ofTag? tagged] at quoted
  exact ⟨_, _, synthesize_of_ofTag? tagged .., rfl, by decide +kernel, quoted⟩

end Companion

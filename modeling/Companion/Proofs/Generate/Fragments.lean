import Companion.Generate.Builder
import Companion.Generate.Subclass
import Companion.Proofs.Code.Fragments
import Companion.Proofs.Intercept.Weave
import Companion.Proofs.Model.Identifiers
import Companion.Proofs.TypeRef.RoundTrip

/-! Fragments of code that a declaration brings along: they are checked alone, and spliced into
the code that is generated.

A method body is checked on the line of its braces and spliced onto lines of its own; a derivation
or default is checked alone and spliced into a line that goes on behind it. The two agree unless
the fragment ends in a line comment.
-/

set_option autoImplicit false

namespace Companion

open Code

namespace TypeRef

theorem Rereads.exists_isTypeText {t : TypeRef} {sum : Bool} (rereads : Rereads t sum false) :
    ∃ type, IsTypeText t.render type := by
  obtain ⟨size, type, e, spelled, -, -, reads⟩ := rereads.2 [] trivial
  obtain ⟨rfl, whole⟩ := spelled.tokensOf
  rw [List.append_nil, Lexer.tokensOf_nil, Option.map_some, List.append_nil] at whole
  refine ⟨type, whole, ?_, fun depth enough ts => ⟨e, ?_⟩⟩
  · -- A parenthesis closes behind the type, so no comment takes it.
    obtain ⟨_, type', _, spelled', -⟩ :=
      rereads.2 [')'] (Lexer.endsName_mark (by decide) [])
    have closes := spelled'.tokensOf.2
    have alone : Lexer.tokensOf [')'] = some [.closing .parenthesis] := by decide +kernel
    have stop : Lexer.Stops [')'] := Lexer.stops_cons (by decide) []
    rw [alone, Option.map_some] at closes
    refine Lexer.not_endsInLine_of_nesting stop (by simp) whole closes ?_
    rw [nesting_append, nesting_spellings, nesting_spellings]
    decide
  · have ends : EndsType (.punct '=' false :: ts) := ⟨by simp [EndsPath], rfl⟩
    have given := reads depth enough true (.punct '=' false :: ts) ends
    rw [Bool.not_true, Bool.false_and, Bool.or_false] at given
    generalize ((Grammar.level depth).type true).run _ = found at given ⊢
    cases given with
    | read => rfl

/-- A type stands in front of the value of a binding, unless a reference to a sum of bounds stands
in it. -/
theorem exists_isTypeText {text : String} {t : TypeRef} (accepted : parse text = .ok t)
    (flat : refersToSum text = false) : ∃ type, IsTypeText t.render type := by
  obtain ⟨e, read, same⟩ := exists_expr_of_parse accepted
  have rereads := rereads_ofExpr e (TypeExpr.parse?_isWritten read) same
  rw [refersToSum, read, Option.any_some] at flat
  rw [flat] at rereads
  exact rereads.exists_isTypeText

end TypeRef

namespace Model

variable {batch : Batch} {l : Location} {text : String} {f : Field}

/-! ### Checks that report nothing -/

theorem silent_checkBody_iff : (checkBody l text).diagnostics = [] ↔
    isBlock ("\x7b " ++ text ++ " \x7d") = true := by
  unfold checkBody
  split
  next accepted => exact iff_of_true rfl accepted
  next refused => exact iff_of_false (List.cons_ne_nil _ _) refused

theorem silent_checkExpression_iff {what : String} :
    (checkExpression l what text).diagnostics = [] ↔ isExpr text = true := by
  unfold checkExpression
  split
  next accepted => exact iff_of_true rfl accepted
  next refused => exact iff_of_false (List.cons_ne_nil _ _) refused

/-! ### Bodies -/

/-- The block that a body becomes, on lines of its own. -/
def bodyBlock (body : String) : String := "\x7b\n" ++ body ++ "\n\x7d"

/-- The block stands in the statement that binds the result, inside of all guards. -/
theorem Method.resultStatement_bodyBlock (m : Method) (body : String) :
    ∃ before after, m.resultStatement body = before ++ bodyBlock body ++ after := by
  rw [resultStatement_eq]
  refine ⟨"let result: " ++ m.returns.render ++ " = " ++
    String.join (m.interceptors.map Interceptor.opening),
    String.join (m.interceptors.reverse.map Interceptor.closing) ++ ";", ?_⟩
  simp only [bodyBlock, String.append_assoc]

/-! ### Expressions -/

namespace Field

/-- The text binds the field to the fragment, which is one expression in it. -/
def BindsTo (f : Field) (text fragment : String) : Prop :=
  ∃ type, treesOf? f.type.render.toList = some type ∧
    HoldsExpr Grammar.statement text true (Grammar.bindingTrees f.name type ++ ·) fragment

/-- The text binds the field to itself or to what a closure gives, whose body is the fragment, as
one expression. -/
def FallsBackTo (f : Field) (text fragment : String) : Prop :=
  ∃ type, treesOf? f.type.render.toList = some type ∧
    HoldsExpr Grammar.statement text false (fun body => Grammar.bindingTrees f.name type ++
      (closureTrees f.name body ++ [.punct ';' false])) fragment

/-- The text fills the slot of the field with the fragment, which is one expression in it. -/
def FillsWith (f : Field) (text fragment : String) : Prop :=
  HoldsExpr Grammar.fieldValue text false (fun body =>
    [.ident f.name, .punct ':' false, .ident "Some", .group .parenthesis body]) fragment

section

variable {type : String} (fragment : String) (named : IsChecked f.name) (tight : IsTight f.name)
  (typed : TypeRef.parse type = .ok f.type) (flat : TypeRef.refersToSum type = false)

include named tight

theorem isName : Lexer.IsName f.name.toList :=
  .plain (isWord_of_isIdent named.2 named.1 tight)

theorem notReserved : f.name ∉ Tree.reserved := by
  obtain ⟨name, found⟩ := exists_ident? named.2
  exact eq_of_ident? tight found ▸ not_mem_reserved_of_ident? found

theorem fillsWith_iff : f.FillsWith (f.name ++ ": Some(" ++ fragment ++ ")") fragment ↔
    IsSpliceable fragment :=
  holdsExpr_slot fragment (isName named tight) (notReserved named tight)

include typed flat

theorem bindsTo_iff : f.BindsTo (bindingText f.name f.type.render ++ fragment ++ ";") fragment ↔
    IsSpliceable fragment := by
  obtain ⟨type, isType⟩ := TypeRef.exists_isTypeText typed flat
  have holds := holdsExpr_binding fragment (isName named tight) (notReserved named tight) isType
  rw [BindsTo, treesOf?_eq_some_iff.mpr isType.spelled]
  simpa using holds

theorem fallsBackTo_iff : f.FallsBackTo (bindingText f.name f.type.render ++
    (f.name ++ ".unwrap_or_else(|| ") ++ fragment ++ ");") fragment ↔ IsSpliceable fragment := by
  obtain ⟨type, isType⟩ := TypeRef.exists_isTypeText typed flat
  have holds := holdsExpr_closure fragment (isName named tight) (notReserved named tight) isType
  rw [FallsBackTo, treesOf?_eq_some_iff.mpr isType.spelled]
  simpa using holds

end

end Field

/-- A fragment is kept without the blanks around it. -/
theorem role_of_checkRole {m : Declaration.Member} {name : String} {role : Role}
    (known : (checkRole l name m).value = some role) :
    (∀ e, m.derivation = some e → role = .derived (Text.trim e)) ∧
      ∀ e, m.default = some e → role = .defaulted (Text.trim e) := by
  unfold checkRole at known
  split at known
  next => cases known
  next e defaults derives =>
    rw [Checked.value_map, Option.map_eq_some_iff] at known
    obtain ⟨_, -, rfl⟩ := known
    exact ⟨by simp [derives], by simp [defaults]⟩
  next e defaults derives =>
    rw [Checked.value_map, Option.map_eq_some_iff] at known
    obtain ⟨_, -, rfl⟩ := known
    exact ⟨by simp [derives], by simp [defaults]⟩
  next defaults derives => exact ⟨by simp [derives], by simp [defaults]⟩

end Model

/-- A text is a block where a body is spliced if and only if its check as a body reports nothing,
unless it ends in a line comment: then it is no block in at least one of the two places. As a
derivation or default it is the one expression of what it is spliced into if and only if its check
reports nothing and, without the blanks around it, it neither begins with a byte order mark nor ends
in a line comment. -/
theorem Generation.fragments_stand_iff (batch : Batch) (l : Location) (text : String) :
    (∀ m : Model.Method, ∃ before after,
      m.resultStatement text = before ++ Model.bodyBlock text ++ after) ∧
    (Lexer.endsInLine text.toList = false →
      ((Model.checkBody l text).diagnostics = [] ↔ isBlock (Model.bodyBlock text) = true)) ∧
    (Lexer.endsInLine text.toList = true →
      ¬ ((Model.checkBody l text).diagnostics = [] ∧ isBlock (Model.bodyBlock text) = true)) ∧
    ∀ (m : Declaration.Member) (f : Model.Field), (Model.checkField batch l m).value = some f →
      IsTight f.name → TypeRef.refersToSum m.type = false →
        (m.derivation = some text → ∃ s, derivationStep f = some (.statement s) ∧
          (f.BindsTo s (Text.trim text) ↔
            (Model.checkExpression l "derivation" text).diagnostics = [] ∧
              IsInline (Text.trim text))) ∧
        (m.default = some text → ∃ s, defaultStep f = some (.statement s) ∧
          (f.FallsBackTo s (Text.trim text) ↔
            (Model.checkExpression l "default value" text).diagnostics = [] ∧
              IsInline (Text.trim text)) ∧
          (f.FillsWith (slot f) (Text.trim text) ↔
            (Model.checkExpression l "default value" text).diagnostics = [] ∧
              IsInline (Text.trim text))) := by
  refine ⟨fun m => m.resultStatement_bodyBlock text, fun closed => ?_, fun line both => ?_,
    fun m f checked tight flat => ?_⟩
  · rw [Model.silent_checkBody_iff, isBlock_lines closed, Model.bodyBlock]
  · have lines := not_isBlock_lines line (Model.silent_checkBody_iff.mp both.1)
    exact absurd both.2 (Bool.eq_false_iff.mp lines)
  · have named := Model.isChecked_of_checkField checked f.name List.mem_cons_self
    have typed := (Model.isOf_of_checkField checked).parsed
    obtain ⟨derived, defaulted⟩ := Model.role_of_checkRole (Model.isOf_of_checkField checked).role
    refine ⟨fun derives => ?_, fun defaults => ?_⟩
    · have role := derived text derives
      have holds := Model.Field.bindsTo_iff (Text.trim text) named tight typed flat
      rw [isSpliceable_trim_iff, ← Model.silent_checkExpression_iff] at holds
      refine ⟨_, ?_, holds⟩
      simp [derivationStep, Model.Field.derivation, role, bindingText, String.append_assoc]
    · have role := defaulted text defaults
      have holds := Model.Field.fallsBackTo_iff (Text.trim text) named tight typed flat
      have fills := Model.Field.fillsWith_iff (Text.trim text) named tight
      rw [isSpliceable_trim_iff, ← Model.silent_checkExpression_iff] at holds fills
      refine ⟨_, ?_, holds, ?_⟩
      · simp [defaultStep, Model.Field.default, role, bindingText, String.append_assoc]
      · simpa [slot, Model.Field.default, role] using fills

/-- A comment at the end of a default passes its check, and takes the brackets behind the default
with it; at the end of a body it fails the check, and does no harm. -/
theorem Generation.fragments_stand_iff_commented :
    let commented : Declaration.Member :=
      ⟨none, some "step", "i64", some "1 // one", none, [], none⟩
    (∃ f text, (Model.checkField default default commented).value = some f ∧
      (Model.checkField default default commented).diagnostics = [] ∧
      defaultStep f = some (.statement text) ∧ ¬ f.FallsBackTo text "1 // one" ∧
      slot f = "step: Some(1 // one)" ∧ ¬ f.FillsWith (slot f) "1 // one") ∧
    (Model.checkBody default "1 // one").diagnostics ≠ [] ∧
      isBlock (Model.bodyBlock "1 // one") = true := by
  intro commented
  have known : (Model.checkField default default commented).value.map
      (fun f => (f.name, slot f)) = some ("step", "step: Some(1 // one)") := by decide +kernel
  obtain ⟨f, checked, same⟩ := Option.map_eq_some_iff.mp known
  obtain ⟨named, filled⟩ := Prod.mk.inj same
  have tight : IsTight f.name := by
    rw [named]
    exact Chars.forall_mem_of_all (by decide)
  have line : Lexer.endsInLine "1 // one".toList = true := by decide +kernel
  have goesOn : ¬ IsInline "1 // one" := fun inline => by
    have closed := inline.2
    rw [line] at closed
    cases closed
  have trimmed : Text.trim "1 // one" = "1 // one" := by decide +kernel
  have block : isBlock (Model.bodyBlock "1 // one") = true := by decide +kernel
  obtain ⟨-, -, refused, stands⟩ := fragments_stand_iff default default "1 // one"
  obtain ⟨text, bound, falls, fills⟩ :=
    (stands commented f checked tight (by decide +kernel)).2 rfl
  rw [trimmed] at falls fills
  refine ⟨⟨f, text, checked, by decide +kernel, bound, fun held => goesOn (falls.mp held).2, filled,
    fun held => goesOn (fills.mp held).2⟩, fun silent => ?_, block⟩
  exact refused line ⟨silent, block⟩

end Companion

import Companion.Json.Basic
import Companion.Proofs.Decimal.Layout

/-! Different JSON values have different texts.

The text of a value is read from its first character on, up to where another value or a bracket can
begin. Floats that are no numbers share a text, so that one of them has to stand for all.
-/

set_option autoImplicit false

namespace Companion.Json

open Code.Lexer (digits toDigits_subset ne_of_mem_digits)
open Decimal (isFinite)
open Decimal.Layout (marks IsUnsigned)

/-! ### Strings -/

def hexValue (c : Char) : Nat := if c.toNat < 58 then c.toNat - 48 else c.toNat - 87

/-- The character at the front of a string, and what follows it. -/
def unescape : List Char → Option (Char × List Char)
  | '\\' :: 'u' :: '0' :: '0' :: a :: b :: rest =>
    some (Char.ofNat (16 * hexValue a + hexValue b), rest)
  | '\\' :: 'n' :: rest => some ('\n', rest)
  | '\\' :: 'r' :: rest => some ('\r', rest)
  | '\\' :: 't' :: rest => some ('\t', rest)
  | '\\' :: 'b' :: rest => some (Char.ofNat 8, rest)
  | '\\' :: 'f' :: rest => some (Char.ofNat 12, rest)
  | '\\' :: c :: rest => some (c, rest)
  | c :: rest => some (c, rest)
  | [] => none

theorem hexValue_hexDigit {n : Nat} (small : n < 16) : hexValue (hexDigit n) = n := by
  have known : ∀ n < 16, hexValue (hexDigit n) = n := by decide
  exact known n small

theorem eq_ofNat {c : Char} {n : Nat} (code : c.toNat = n) : Char.ofNat n = c := by
  rw [← code, Char.ofNat_toNat]

theorem unescape_cons {c : Char} (plain : c ≠ '\\') (rest : List Char) :
    unescape (c :: rest) = some (c, rest) := by
  unfold unescape
  split <;> simp_all

theorem unescape_escapeChar (c : Char) (rest : List Char) :
    unescape (escapeChar c ++ rest) = some (c, rest) := by
  unfold escapeChar
  split
  · rfl
  · rfl
  · rfl
  · rfl
  · rfl
  · next noBackslash _ _ _ =>
    split
    · next code =>
      rw [← eq_ofNat code]
      rfl
    · split
      · next code =>
        rw [← eq_ofNat code]
        rfl
      · split
        · next small =>
          have whole : 16 * (c.toNat / 16) + c.toNat % 16 = c.toNat := Nat.div_add_mod ..
          simp only [unescape, List.cons_append, List.nil_append]
          rw [hexValue_hexDigit (by omega), hexValue_hexDigit (by omega), whole, Char.ofNat_toNat]
        · exact unescape_cons noBackslash rest

theorem escapeChar_ne_quote (c : Char) (rest more : List Char) :
    ¬escapeChar c ++ rest = '"' :: more := by
  intro same
  have first := unescape_escapeChar c rest
  rw [same, unescape_cons (by decide)] at first
  cases first
  cases same

/-- A string ends at the first quote that is not escaped. -/
theorem flatMap_escapeChar_inj {cs cs' rest rest' : List Char}
    (same : cs.flatMap escapeChar ++ '"' :: rest = cs'.flatMap escapeChar ++ '"' :: rest') :
    cs = cs' ∧ rest = rest' := by
  induction cs generalizing cs' with
  | nil =>
    cases cs' with
    | nil => exact ⟨rfl, (List.cons.inj same).2⟩
    | cons c' cs' =>
      rw [List.flatMap_cons, List.append_assoc] at same
      exact (escapeChar_ne_quote _ _ _ same.symm).elim
  | cons c cs ih =>
    rw [List.flatMap_cons, List.append_assoc] at same
    cases cs' with
    | nil => exact (escapeChar_ne_quote _ _ _ same).elim
    | cons c' cs' =>
      rw [List.flatMap_cons, List.append_assoc] at same
      have first := unescape_escapeChar c (cs.flatMap escapeChar ++ '"' :: rest)
      rw [same, unescape_escapeChar] at first
      obtain ⟨rfl, others⟩ := Prod.mk.inj (Option.some.inj first)
      obtain ⟨rfl, rfl⟩ := ih others.symm
      exact ⟨rfl, rfl⟩

theorem toList_quote (s : String) :
    (quote s).toList = '"' :: s.toList.flatMap escapeChar ++ ['"'] := String.toList_ofList

theorem quote_inj {s s' : String} {rest rest' : List Char}
    (same : (quote s).toList ++ rest = (quote s').toList ++ rest') : s = s' ∧ rest = rest' := by
  simp only [toList_quote, List.cons_append, List.append_assoc, List.nil_append,
    List.cons.injEq, true_and] at same
  obtain ⟨chars, others⟩ := flatMap_escapeChar_inj same
  exact ⟨String.toList_inj.mp chars, others⟩

/-! ### Numbers -/

/-- No more of a number follows. -/
def Ends (rest : List Char) : Prop := ∀ c more, rest = c :: more → c ∉ marks

theorem ends_cons {c : Char} (other : c ∉ marks) (rest : List Char) : Ends (c :: rest) := by
  rintro d more same
  exact (List.cons.inj same).1 ▸ other

theorem numbers_inj {number number' rest rest' : List Char} (numeric : number ⊆ marks)
    (numeric' : number' ⊆ marks) (ends : Ends rest) (ends' : Ends rest')
    (same : number ++ rest = number' ++ rest') : number = number' ∧ rest = rest' := by
  induction number generalizing number' with
  | nil =>
    cases number' with
    | nil => exact ⟨rfl, same⟩
    | cons c number' => exact absurd (numeric' (List.mem_cons_self ..)) (ends c _ same)
  | cons c number ih =>
    cases number' with
    | nil => exact absurd (numeric (List.mem_cons_self ..)) (ends' c _ same.symm)
    | cons c' number' =>
      obtain ⟨rfl, others⟩ := List.cons.inj same
      obtain ⟨rfl, following⟩ := ih (List.cons_subset.mp numeric).2 (List.cons_subset.mp numeric').2
        others
      exact ⟨rfl, following⟩

theorem toList_toString (n : Nat) : (toString n).toList = Nat.toDigits 10 n := Nat.toList_repr

theorem begins_toString (n : Nat) : ∃ d rest, (toString n).toList = d :: rest ∧ d ∈ digits := by
  obtain ⟨d, rest, known⟩ := List.exists_cons_of_ne_nil (Nat.toDigits_ne_nil (n := n) (b := 10))
  rw [toList_toString, known]
  exact ⟨d, rest, rfl, toDigits_subset n (known ▸ List.mem_cons_self ..)⟩

theorem toString_eq_signed (n : Int) :
    toString n = Decimal.Layout.signed (decide (n < 0)) (toString n.natAbs) := by
  cases n with
  | ofNat n => rfl
  | negSucc n =>
    rw [decide_eq_true (Int.negSucc_lt_zero n)]
    rfl

theorem toString_injective {n m : Int} (same : toString n = toString m) : n = m := by
  rw [toString_eq_signed, toString_eq_signed] at same
  obtain ⟨signs, sizes⟩ :=
    Decimal.Layout.signed_inj (begins_toString _) (begins_toString _) same
  have digits := congrArg String.toList sizes
  rw [toList_toString, toList_toString] at digits
  have absolute : n.natAbs = m.natAbs := by
    rw [← Nat.ofDigitChars_ten_toDigits (n := n.natAbs), digits, Nat.ofDigitChars_ten_toDigits]
  have negative : n < 0 ↔ m < 0 := decide_eq_decide.mp signs
  omega

theorem integer_subset (n : Int) : (toString n).toList ⊆ '-' :: digits := by
  have whole : (toString n.natAbs).toList ⊆ '-' :: digits := fun _ member =>
    List.mem_cons_of_mem _ (toDigits_subset _ (toList_toString _ ▸ member))
  rw [toString_eq_signed, Decimal.Layout.signed]
  split
  · rw [String.toList_append]
    exact List.append_subset.mpr ⟨by decide, whole⟩
  · exact whole

/-! ### Values -/

/-- The float that stands for all that are no numbers. -/
def noNumber : Float := Float.ofBits 0x7FF8000000000000

theorem isFinite_noNumber : isFinite noNumber = false := by decide +kernel

/-- A value in which all floats are numbers or the one that stands for the others. There is no null,
which would be written like that one. -/
inductive Settled : Json → Prop
  | bool (value : Bool) : Settled (.bool value)
  | integer (value : Int) : Settled (.integer value)
  | float {value : Float} (settled : isFinite value = false → value = noNumber) :
    Settled (.float value)
  | text (value : String) : Settled (.text value)
  | array {items : List Json} (each : ∀ j ∈ items, Settled j) : Settled (.array items)
  | object {fields : List (String × Json)} (each : ∀ f ∈ fields, Settled f.2) :
    Settled (.object fields)

inductive Kind where
  | word
  | truth
  | number
  | text
  | array
  | object
  deriving DecidableEq

/-- The characters that values of a kind begin with. -/
def Kind.firsts : Kind → List Char
  | word => ['n']
  | truth => ['t', 'f']
  | number => '-' :: digits
  | text => ['"']
  | array => ['[']
  | object => ['\x7b']

def kind : Json → Kind
  | null => .word
  | bool _ => .truth
  | integer _ => .number
  | float x => if isFinite x then .number else .word
  | text _ => .text
  | array _ => .array
  | object _ => .object

theorem Kind.eq_of_firsts {c : Char} {k k' : Kind} (first : c ∈ k.firsts) (first' : c ∈ k'.firsts) :
    k = k' := by
  have known : ∀ c ∈ k.firsts, c ∈ k'.firsts → k = k' := by
    cases k <;> cases k' <;> exact Chars.forall_mem_of_all (by decide)
  exact known c first first'

theorem floatText_spec {x : Float} (finite : isFinite x = true) : ∃ negative text,
    floatText x = Decimal.Layout.signed negative text ∧ IsUnsigned text.toList := by
  obtain ⟨negative, text, writes, known⟩ :=
    Decimal.Layout.json.exists_writes finite
  exact ⟨negative, text, by rw [floatText, if_pos finite]; exact known, writes.isUnsigned⟩

theorem floatText_subset {x : Float} (finite : isFinite x = true) :
    (floatText x).toList ⊆ marks ∧ ¬(floatText x).toList ⊆ '-' :: digits := by
  obtain ⟨negative, text, known, unsigned⟩ := floatText_spec finite
  rw [known, Decimal.Layout.signed]
  split
  · rw [String.toList_append]
    exact ⟨List.append_subset.mpr ⟨by decide, unsigned.marks⟩,
      fun whole => unsigned.notWhole (List.append_subset.mp whole).2⟩
  · exact ⟨unsigned.marks, unsigned.notWhole⟩

theorem exists_first (j : Json) :
    ∃ c rest, (compact j).toList = c :: rest ∧ c ∈ j.kind.firsts := by
  have signs (negative : Bool) {text : String}
      (begins : ∃ d rest, text.toList = d :: rest ∧ d ∈ digits) :
      ∃ c rest, (Decimal.Layout.signed negative text).toList = c :: rest ∧
        c ∈ Kind.number.firsts := by
    obtain ⟨d, rest, known, digit⟩ := begins
    cases negative with
    | false => exact ⟨d, rest, known, List.mem_cons_of_mem _ digit⟩
    | true => exact ⟨'-', _, String.toList_append .., List.mem_cons_self ..⟩
  cases j with
  | null => exact ⟨'n', _, rfl, by decide⟩
  | bool b => cases b <;> exact ⟨_, _, rfl, by decide⟩
  | integer n =>
    have begins := signs (decide (n < 0)) (begins_toString n.natAbs)
    rwa [← toString_eq_signed] at begins
  | float x =>
    rw [kind, compact]
    split
    · next finite =>
      obtain ⟨negative, text, known, unsigned⟩ := floatText_spec finite
      rw [known]
      exact signs negative unsigned.digit
    · next infinite =>
      rw [floatText, if_neg infinite]
      exact ⟨'n', _, rfl, by decide⟩
  | text s => exact ⟨'"', _, by rw [compact, toList_quote]; rfl, List.mem_singleton.mpr rfl⟩
  | array items =>
    exact ⟨'[', _, by rw [compact, String.toList_append, String.toList_append]; rfl,
      List.mem_singleton.mpr rfl⟩
  | object fields =>
    exact ⟨'\x7b', _, by rw [compact, String.toList_append, String.toList_append]; rfl,
      List.mem_singleton.mpr rfl⟩

/-- Two values at the front of one text are of one kind. -/
theorem kind_eq {j j' : Json} {rest rest' : List Char}
    (same : (compact j).toList ++ rest = (compact j').toList ++ rest') : j.kind = j'.kind := by
  obtain ⟨c, more, known, first⟩ := exists_first j
  obtain ⟨c', more', known', first'⟩ := exists_first j'
  rw [known, known'] at same
  cases (List.cons.inj same).1
  exact Kind.eq_of_firsts first first'

/-! ### Lists of values -/

/-- Texts after the first, each after a comma. -/
def tail (texts : List String) : List Char := texts.flatMap fun text => ',' :: text.toList

theorem tail_cons (text : String) (texts : List String) :
    tail (text :: texts) = ',' :: (",".intercalate (text :: texts)).toList := by
  induction texts generalizing text with
  | nil => simp [tail]
  | cons next texts ih =>
    rw [String.intercalate_cons_cons, String.toList_append, String.toList_append, tail,
      List.flatMap_cons, ← tail, ih]
    simp

section

variable {α : Type} {text : α → String} {close : Char}

theorem ends_tail (closes : close ∉ marks) (texts : List String) (rest : List Char) :
    Ends (tail texts ++ close :: rest) := by
  cases texts with
  | nil => exact ends_cons closes rest
  | cons next texts =>
    rw [tail_cons]
    exact ends_cons (by decide) _

/-- Where some texts are told apart by what they begin with, so are lists of them. -/
theorem tail_inj (closes : close ∉ marks) (apart : close ≠ ',') {items items' : List α}
    (each : ∀ a ∈ items, ∀ a' ∈ items', ∀ rest rest', Ends rest → Ends rest' →
      (text a).toList ++ rest = (text a').toList ++ rest' → a = a' ∧ rest = rest')
    {rest rest' : List Char}
    (same : tail (items.map text) ++ close :: rest = tail (items'.map text) ++ close :: rest') :
    items = items' ∧ rest = rest' := by
  induction items generalizing items' with
  | nil =>
    cases items' with
    | nil => exact ⟨rfl, (List.cons.inj same).2⟩
    | cons a' items' => exact absurd (List.cons.inj same).1 apart
  | cons a items ih =>
    cases items' with
    | nil => exact absurd (List.cons.inj same).1.symm apart
    | cons a' items' =>
      rw [List.map_cons, List.map_cons, tail, tail, List.flatMap_cons, List.flatMap_cons, ← tail,
        ← tail, List.append_assoc, List.append_assoc] at same
      obtain ⟨rfl, others⟩ := each a (List.mem_cons_self ..) a' (List.mem_cons_self ..) _ _
        (ends_tail closes _ _) (ends_tail closes _ _) (List.cons.inj same).2
      obtain ⟨rfl, following⟩ := ih (fun b member b' member' => each b
        (List.mem_cons_of_mem _ member) b' (List.mem_cons_of_mem _ member')) others
      exact ⟨rfl, following⟩

theorem intercalate_inj (closes : close ∉ marks) (apart : close ≠ ',') {items items' : List α}
    (opens : ∀ a, ∃ c rest, (text a).toList = c :: rest ∧ c ≠ close)
    (each : ∀ a ∈ items, ∀ a' ∈ items', ∀ rest rest', Ends rest → Ends rest' →
      (text a).toList ++ rest = (text a').toList ++ rest' → a = a' ∧ rest = rest')
    {rest rest' : List Char}
    (same : (",".intercalate (items.map text)).toList ++ close :: rest =
      (",".intercalate (items'.map text)).toList ++ close :: rest') :
    items = items' ∧ rest = rest' := by
  have begins (a : α) (others : List α) (rest more : List Char) :
      ¬(",".intercalate ((a :: others).map text)).toList ++ rest = close :: more := by
    intro same
    obtain ⟨c, behind, known, other⟩ := opens a
    have first : tail ((a :: others).map text) ++ rest = ',' :: close :: more := by
      rw [List.map_cons, tail_cons, ← List.map_cons, List.cons_append, same]
    rw [List.map_cons, tail, List.flatMap_cons, known] at first
    exact other (List.cons.inj (List.cons.inj first).2).1
  cases items with
  | nil =>
    cases items' with
    | nil => exact ⟨rfl, (List.cons.inj same).2⟩
    | cons a' items' => exact (begins a' items' _ _ same.symm).elim
  | cons a items =>
    cases items' with
    | nil => exact (begins a items _ _ same).elim
    | cons a' items' =>
      refine tail_inj closes apart each ?_
      rw [List.map_cons, List.map_cons, tail_cons, tail_cons]
      exact congrArg (',' :: ·) same

end

/-! ### Texts of values -/

theorem compactAll_eq (items : List Json) : compactAll items = items.map compact := by
  induction items with
  | nil => rfl
  | cons j items ih => rw [compactAll, ih, List.map_cons]

/-- The text of a field. -/
def fieldText (f : String × Json) : String := quote f.1 ++ ":" ++ compact f.2

theorem compactFields_eq (fields : List (String × Json)) :
    compactFields fields = fields.map fieldText := by
  induction fields with
  | nil => rfl
  | cons f fields ih => rw [compactFields, ih, List.map_cons, fieldText]

/-- What settled values of a kind are. -/
def Kind.Describes (j : Json) : Kind → Prop
  | word => j = .float noNumber
  | truth => ∃ b, j = .bool b
  | number => (∃ n, j = .integer n) ∨ ∃ x, j = .float x ∧ isFinite x = true
  | text => ∃ s, j = .text s
  | array => ∃ items, j = .array items ∧ ∀ i ∈ items, Settled i
  | object => ∃ fields, j = .object fields ∧ ∀ f ∈ fields, Settled f.2

theorem Settled.describes {j : Json} (settled : j.Settled) : j.kind.Describes j := by
  cases settled with
  | bool b => exact ⟨b, rfl⟩
  | integer n => exact .inl ⟨n, rfl⟩
  | @float x known =>
    rw [kind]
    split
    · next finite => exact .inr ⟨x, rfl, finite⟩
    · next infinite => exact congrArg Json.float (known (Bool.not_eq_true _ ▸ infinite))
  | text s => exact ⟨s, rfl⟩
  | array each => exact ⟨_, rfl, each⟩
  | object each => exact ⟨_, rfl, each⟩

/-- The text of a number. -/
theorem number_spec {j : Json} (number : Kind.number.Describes j) : (compact j).toList ⊆ marks := by
  obtain ⟨n, rfl⟩ | ⟨x, rfl, finite⟩ := number
  · exact fun _ member => (show '-' :: digits ⊆ marks by decide) (integer_subset n member)
  · exact (floatText_subset finite).1

theorem number_inj {j j' : Json} (number : Kind.number.Describes j)
    (number' : Kind.number.Describes j') (same : compact j = compact j') : j = j' := by
  obtain ⟨n, rfl⟩ | ⟨x, rfl, finite⟩ := number
  · obtain ⟨m, rfl⟩ | ⟨y, rfl, finite'⟩ := number'
    · exact congrArg Json.integer (toString_injective same)
    · refine absurd ?_ (floatText_subset finite').2
      exact (congrArg String.toList same) ▸ integer_subset n
  · obtain ⟨m, rfl⟩ | ⟨y, rfl, finite'⟩ := number'
    · refine absurd ?_ (floatText_subset finite).2
      exact (congrArg String.toList same) ▸ integer_subset m
    · change floatText x = floatText y at same
      rw [floatText, floatText, if_pos finite, if_pos finite'] at same
      exact congrArg Json.float (Decimal.Layout.write_injective finite finite' same)

theorem toList_array (items : List Json) (rest : List Char) :
    (compact (.array items)).toList ++ rest =
      '[' :: ((",".intercalate (items.map compact)).toList ++ ']' :: rest) := by
  rw [compact, compactAll_eq, String.toList_append, String.toList_append]
  simp

theorem toList_object (fields : List (String × Json)) (rest : List Char) :
    (compact (.object fields)).toList ++ rest =
      '\x7b' :: ((",".intercalate (fields.map fieldText)).toList ++ '\x7d' :: rest) := by
  rw [compact, compactFields_eq, String.toList_append, String.toList_append]
  simp

theorem toList_fieldText (f : String × Json) (rest : List Char) :
    (fieldText f).toList ++ rest =
      (quote f.1).toList ++ ':' :: ((compact f.2).toList ++ rest) := by
  simp [fieldText]

theorem array_inj {items items' : List Json} {rest rest' : List Char}
    (each : ∀ j ∈ items, ∀ j' ∈ items', ∀ rest rest', Ends rest → Ends rest' →
      (compact j).toList ++ rest = (compact j').toList ++ rest' → j = j' ∧ rest = rest')
    (same : (compact (.array items)).toList ++ rest = (compact (.array items')).toList ++ rest') :
    items = items' ∧ rest = rest' := by
  rw [toList_array, toList_array] at same
  have opens (j : Json) : ∃ c rest, (compact j).toList = c :: rest ∧ c ≠ ']' := by
    obtain ⟨c, rest, text, first⟩ := exists_first j
    have closing : ∀ k : Kind, ']' ∉ k.firsts := by
      intro k
      cases k <;> decide
    exact ⟨c, rest, text, ne_of_mem_of_not_mem first (closing j.kind)⟩
  exact intercalate_inj (by decide) (by decide) opens each (List.cons.inj same).2

theorem object_inj {fields fields' : List (String × Json)} {rest rest' : List Char}
    (each : ∀ f ∈ fields, ∀ f' ∈ fields', ∀ rest rest', Ends rest → Ends rest' →
      (compact f.2).toList ++ rest = (compact f'.2).toList ++ rest' →
        f.2 = f'.2 ∧ rest = rest')
    (same : (compact (.object fields)).toList ++ rest =
      (compact (.object fields')).toList ++ rest') : fields = fields' ∧ rest = rest' := by
  rw [toList_object, toList_object] at same
  have opens (f : String × Json) : ∃ c rest, (fieldText f).toList = c :: rest ∧ c ≠ '\x7d' :=
    ⟨'"', _, by rw [fieldText, String.toList_append, String.toList_append, toList_quote]; rfl,
      by decide⟩
  refine intercalate_inj (by decide) (by decide) opens
    (fun f member f' member' rest rest' ends ends' same => ?_) (List.cons.inj same).2
  rw [toList_fieldText, toList_fieldText] at same
  obtain ⟨names, values⟩ := quote_inj same
  obtain ⟨value, following⟩ :=
    each f member f' member' rest rest' ends ends' (List.cons.inj values).2
  exact ⟨Prod.ext names value, following⟩

/-- Two settled values at the front of one text are the same. -/
theorem compact_inj {j j' : Json} (settled : j.Settled) (settled' : j'.Settled)
    {rest rest' : List Char} (ends : Ends rest) (ends' : Ends rest')
    (same : (compact j).toList ++ rest = (compact j').toList ++ rest') : j = j' ∧ rest = rest' := by
  have known := kind_eq same ▸ settled'.describes
  induction settled generalizing j' rest rest' with
  | bool b =>
    obtain ⟨b', rfl⟩ := known
    cases b <;> cases b'
    · exact ⟨rfl, List.append_cancel_left same⟩
    · have first : 'f' :: ("alse".toList ++ rest) = 't' :: ("rue".toList ++ rest') := same
      cases (List.cons.inj first).1
    · have first : 't' :: ("rue".toList ++ rest) = 'f' :: ("alse".toList ++ rest') := same
      cases (List.cons.inj first).1
    · exact ⟨rfl, List.append_cancel_left same⟩
  | integer n =>
    have number : Kind.number.Describes (.integer n) := .inl ⟨n, rfl⟩
    obtain ⟨texts, following⟩ :=
      numbers_inj (number_spec number) (number_spec known) ends ends' same
    exact ⟨number_inj number known (String.toList_inj.mp texts), following⟩
  | @float x value =>
    by_cases finite : isFinite x = true
    · have number : Kind.number.Describes (.float x) := .inr ⟨x, rfl, finite⟩
      rw [kind, if_pos finite] at known
      obtain ⟨texts, following⟩ :=
        numbers_inj (number_spec number) (number_spec known) ends ends' same
      exact ⟨number_inj number known (String.toList_inj.mp texts), following⟩
    · rw [kind, if_neg finite] at known
      cases known
      rw [value (Bool.not_eq_true _ ▸ finite)] at same ⊢
      exact ⟨rfl, List.append_cancel_left same⟩
  | text s =>
    obtain ⟨s', rfl⟩ := known
    obtain ⟨rfl, following⟩ := quote_inj same
    exact ⟨rfl, following⟩
  | @array items each ih =>
    obtain ⟨items', rfl, each'⟩ := known
    obtain ⟨rfl, following⟩ := array_inj (fun j member j' member' _ _ ends ends' same =>
      ih j member (each' j' member') ends ends' same (kind_eq same ▸ (each' j' member').describes))
      same
    exact ⟨rfl, following⟩
  | @object fields each ih =>
    obtain ⟨fields', rfl, each'⟩ := known
    obtain ⟨rfl, following⟩ := object_inj (fun f member f' member' _ _ ends ends' same =>
      ih f member (each' f' member') ends ends' same (kind_eq same ▸ (each' f' member').describes))
      same
    exact ⟨rfl, following⟩

theorem compact_injective {j j' : Json} (settled : j.Settled) (settled' : j'.Settled)
    (same : compact j = compact j') : j = j' := by
  have ends : Ends [] := nofun
  have whole : (compact j).toList ++ [] = (compact j').toList ++ [] := by rw [same]
  exact (compact_inj settled settled' ends ends whole).1

end Companion.Json

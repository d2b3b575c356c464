import Companion.Proofs.Code.Arithmetic
import Companion.Proofs.Code.Forms

/-! The text of conditions, and the conditions that are read from it.

A text is put together from what stands for a kind of items, whatever follows it: operands make
products, and these make conditions.
-/

set_option autoImplicit false

namespace Companion.Code.Expression

open Lexer (EndsName EndsNumber)

/-! ### From a text to items -/

/-- The characters are items in front of what comes after them. -/
def Writes (cs after : List Char) (items : List Item) : Prop :=
  ∃ size trees, Spells cs after size trees ∧ items? trees = some items

theorem items?_append {trees others : List Tree} {items more : List Item}
    (first : items? trees = some items) (second : items? others = some more) :
    items? (trees ++ others) = some (items ++ more) := by
  induction trees generalizing items with
  | nil =>
    cases first
    exact second
  | cons tree trees ih =>
    rw [items?] at first
    obtain ⟨item, known, rest⟩ := Option.bind_eq_some_iff.mp first
    obtain ⟨items', known', same⟩ := Option.bind_eq_some_iff.mp rest
    cases same
    rw [List.cons_append, items?, known, ih known']
    rfl

namespace Writes

variable {cs ds after : List Char} {items more : List Item}

theorem of_eq (written : Writes cs after items) (same : ds = cs) : Writes ds after items :=
  same ▸ written

theorem nil (after : List Char) : Writes [] after [] := ⟨0, [], .nil after, rfl⟩

theorem append (first : Writes cs (ds ++ after) items) (second : Writes ds after more) :
    Writes (cs ++ ds) after (items ++ more) := by
  obtain ⟨size, trees, spelled, read⟩ := first
  obtain ⟨size', others, spelled', read'⟩ := second
  exact ⟨_, _, spelled.append spelled', items?_append read read'⟩

theorem blank (written : Writes cs after items) : Writes (' ' :: cs) after items := by
  obtain ⟨size, trees, spelled, read⟩ := written
  exact ⟨size, trees, spelled.cons_blank, read⟩

theorem mark {c : Char} (listed : c ∈ Lexer.plainMarks) (written : Writes cs after items) :
    Writes (c :: cs) after (.mark c (Lexer.mark? (cs ++ after)).isSome :: items) := by
  have alone : Writes [c] (cs ++ after) [.mark c (Lexer.mark? (cs ++ after)).isSome] :=
    ⟨_, _, .mark listed _, rfl⟩
  exact alone.append written

theorem name {x : String} (named : Lexer.IsName x.toList) (ends : EndsName (cs ++ after))
    (written : Writes cs after items) : Writes (x.toList ++ cs) after (.name x :: items) := by
  have alone : Writes x.toList (cs ++ after) [.name x] := by
    refine ⟨_, _, .name named ends, ?_⟩
    rw [String.ofList_toList]
    rfl
  exact alone.append written

theorem number (n : Nat) (ends : EndsNumber after) :
    Writes (toString n).toList after [.number n] := by
  refine ⟨_, _, .digits n ends, ?_⟩
  rw [items?, item?, Number.integer?_toString]
  rfl

theorem group {inside : List Item} {item : Item}
    (clear : (ds ++ ')' :: (cs ++ after)).head? ≠ some '/')
    (body : Writes ds (')' :: (cs ++ after)) inside) (known : Item.ofGroup? inside = some item)
    (written : Writes cs after items) :
    Writes ('(' :: (ds ++ [')']) ++ cs) after (item :: items) := by
  obtain ⟨size, trees, spelled, read⟩ := body
  have alone : Writes ('(' :: (ds ++ [')'])) (cs ++ after) [item] := by
    refine ⟨_, _, .group rfl rfl clear spelled, ?_⟩
    rw [items?, item?, read]
    simp [known, items?]
  exact alone.append written

theorem call (method : String) {inside : List Item} {item : Item}
    (named : Lexer.IsName method.toList) (clear : (ds ++ ')' :: (cs ++ after)).head? ≠ some '/')
    (body : Writes ds (')' :: (cs ++ after)) inside) (known : Item.ofGroup? inside = some item)
    (written : Writes cs after items) :
    ∃ joint, Writes ('.' :: (method.toList ++ ('(' :: (ds ++ [')']) ++ cs))) after
      (.mark '.' joint :: .name method :: item :: items) :=
  ⟨_, ((group clear body known written).name named (Lexer.endsName_mark (by decide) _)).mark
    (by decide)⟩

/-- An operator's marks are joined up to the last. -/
def operatorItems : List Char → List Item
  | [] => []
  | c :: marks => .mark c (!marks.isEmpty) :: operatorItems marks

theorem mark?_isSome {c : Char} (listed : c ∈ Lexer.plainMarks) (rest : List Char) :
    (Lexer.mark? (c :: rest)).isSome = true := by
  have known : ∀ c ∈ Lexer.plainMarks, c ≠ '/' ∧ Lexer.marks.contains c = true :=
    Chars.forall_mem_of_all (by decide +kernel)
  obtain ⟨slash, mark⟩ := known c listed
  rw [Lexer.mark?, if_neg fun comment => slash comment.1, if_pos mark]
  rfl

theorem operator (marks : List Char) (listed : marks ⊆ Lexer.plainMarks)
    (written : Writes cs after items) :
    Writes (marks ++ ' ' :: cs) after (operatorItems marks ++ items) := by
  induction marks with
  | nil => exact written.blank
  | cons c marks ih =>
    obtain ⟨first, others⟩ := List.cons_subset.mp listed
    have whole := (ih others).mark first
    have joint : (Lexer.mark? (marks ++ ' ' :: cs ++ after)).isSome = !marks.isEmpty := by
      cases marks with
      | nil => rfl
      | cons d marks => exact mark?_isSome (List.cons_subset.mp others).1 _
    rwa [joint] at whole

end Writes

/-! ### From items to a condition -/

def AreFree (marks : List Char) (items : List Item) : Prop :=
  ∀ item ∈ items, item.isMark marks = false

theorem breakAt_of_free {marks : List Char} {items : List Item} (free : AreFree marks items) :
    breakAt marks items = (items, []) := by
  have stays : ∀ item ∈ items, (!item.isMark marks) = true := fun item member => by
    rw [free item member]
    rfl
  rw [breakAt, List.takeWhile_eq_self_iff.mpr stays, List.dropWhile_eq_nil_iff.mpr stays]

theorem breakAt_append {marks : List Char} {items : List Item} {item : Item}
    (free : AreFree marks items) (stop : item.isMark marks = true) (more : List Item) :
    breakAt marks (items ++ item :: more) = (items, item :: more) := by
  have stays : ∀ item ∈ items, (!item.isMark marks) = true := fun item member => by
    rw [free item member]
    rfl
  rw [breakAt, List.takeWhile_append_of_pos stays, List.dropWhile_append_of_pos stays,
    List.takeWhile_cons_of_neg (by simp [stop]), List.dropWhile_cons_of_neg (by simp [stop]),
    List.append_nil]

def IsOperand (e : Expression) (items : List Item) : Prop :=
  operand? items = some e ∧ AreFree percent items ∧ AreFree signs items

def IsProduct (e : Expression) (items : List Item) : Prop :=
  product? items = some e ∧ AreFree signs items

def IsCondition (e : Expression) (items : List Item) : Prop := ofItems? items = some e

theorem IsOperand.isProduct {e : Expression} {items : List Item} (known : IsOperand e items) :
    IsProduct e items := by
  obtain ⟨read, free, clear⟩ := known
  refine ⟨?_, clear⟩
  rw [product?, breakAt_of_free free]
  exact read

theorem IsOperand.remainder {a b : Expression} {items more : List Item} (first : IsOperand a items)
    (second : IsOperand b more) :
    IsProduct (.remainder a b) (items ++ (.mark '%' false :: more)) := by
  obtain ⟨read, free, clear⟩ := first
  obtain ⟨read', free', clear'⟩ := second
  refine ⟨?_, List.forall_mem_append.mpr ⟨clear, List.forall_mem_cons.mpr ⟨rfl, clear'⟩⟩⟩
  rw [product?, breakAt_append free rfl]
  simp [read, read']

/-- Two sides that are equal, or of which one is the greater. -/
def related : Option Comparison → Expression → Expression → Expression
  | none => .equal
  | some c => .compare c

def sign : Option Comparison → String
  | none => "=="
  | some c => c.symbol

theorem IsProduct.related {a b : Expression} {items more : List Item} (r : Option Comparison)
    (first : IsProduct a items) (second : IsProduct b more) :
    IsCondition (related r a b) (items ++ (Writes.operatorItems (sign r).toList ++ more)) := by
  have opens : ∃ item rest, Writes.operatorItems (sign r).toList ++ more = item :: rest ∧
      item.isMark signs = true ∧
        comparison? (item :: rest) = some (Expression.related r, more) := by
    rcases r with _ | c
    · exact ⟨.mark '=' true, .mark '=' false :: more, rfl, rfl, rfl⟩
    · cases c with
      | greater => exact ⟨.mark '>' false, more, rfl, rfl, rfl⟩
      | greaterOrEqual => exact ⟨.mark '>' true, .mark '=' false :: more, rfl, rfl, rfl⟩
      | less => exact ⟨.mark '<' false, more, rfl, rfl, rfl⟩
      | lessOrEqual => exact ⟨.mark '<' true, .mark '=' false :: more, rfl, rfl, rfl⟩
  obtain ⟨item, rest, same, stop, read⟩ := opens
  rw [same, IsCondition, ofItems?, breakAt_append first.2 stop]
  simp [read, first.1, second.1]

/-! ### From a text to a condition -/

/-- In front of a blank, a closing bracket or the end, the characters are items of a kind. -/
def Stands (cs : List Char) (kind : List Item → Prop) : Prop :=
  ∀ after, EndsNumber after → ∃ items, Writes cs after items ∧ kind items

theorem endsName_of_endsNumber {after : List Char} (ends : EndsNumber after) : EndsName after := by
  cases after with
  | nil => trivial
  | cons c more =>
    have wider : ∀ c ∈ [' ', ')', ']'],
        c ∈ [' ', ',', '<', '>', ':', ';', '.', '|', '(', ')', ']'] :=
      Chars.forall_mem_of_all (by decide)
    exact Lexer.endsName_mark (wider c (ends c rfl)) more

/-- A number as it is written in front of a suffix or none. -/
def ofInt (i : Int) : Expression := if i < 0 then .negated i.natAbs else .literal i.natAbs

namespace Stands

variable {cs ds : List Char} {a b : Expression} {x : String}

theorem integer (i : Int) : Stands (toString i).toList (IsOperand (ofInt i)) := by
  intro after ends
  cases i with
  | ofNat n =>
    refine ⟨_, .number n ends, rfl, ?_, ?_⟩ <;> simp [AreFree, Item.isMark]
  | negSucc n =>
    have written := (Writes.number (n + 1) ends).mark (c := '-') (by decide)
    have text : (toString (Int.negSucc n)).toList = '-' :: (toString (n + 1)).toList :=
      String.toList_append
    rw [text]
    refine ⟨_, written, ?_, ?_, ?_⟩ <;>
      simp [operand?, ofInt, Int.negSucc_lt_zero, AreFree, Item.isMark, percent, signs]

theorem name (named : Lexer.IsName x.toList) (free : x ∉ Tree.reserved) :
    Stands x.toList (IsOperand (.name x)) := by
  intro after ends
  have written : Writes (x.toList ++ []) after _ :=
    (Writes.nil after).name named (endsName_of_endsNumber ends)
  rw [List.append_nil] at written
  refine ⟨_, written, ?_, ?_, ?_⟩ <;> simp [operand?, calls?, free, AreFree, Item.isMark]

theorem dereferenced (named : Lexer.IsName x.toList) (free : x ∉ Tree.reserved) :
    Stands ('(' :: ('*' :: x.toList ++ [')'])) (IsOperand (.dereference (.name x))) := by
  intro after ends
  have inside := ((Writes.nil (')' :: after)).name named (Lexer.endsName_mark (by decide) _)).mark
    (c := '*') (by decide)
  rw [List.append_nil] at inside
  have read : ∀ joint, Item.ofGroup? [.mark '*' joint, .name x] =
      some (.inner (.dereference (.name x))) := by
    intro joint
    simp [Item.ofGroup?, ofItems?, product?, breakAt, Item.isMark, signs, percent, operand?, calls?,
      free]
  have written := Writes.group (by simp) inside (read _) (Writes.nil after)
  rw [List.append_nil] at written
  refine ⟨_, written, ?_, ?_, ?_⟩ <;> simp [operand?, calls?, AreFree, Item.isMark]

theorem of_eq {kind : List Item → Prop} (written : Stands cs kind) (same : ds = cs) :
    Stands ds kind := same ▸ written

theorem product (written : Stands cs (IsOperand a)) : Stands cs (IsProduct a) := fun after ends =>
  (written after ends).imp fun _ known => ⟨known.1, known.2.isProduct⟩

theorem remainder (first : Stands cs (IsOperand a)) (second : Stands ds (IsOperand b)) :
    Stands (cs ++ ' ' :: '%' :: ' ' :: ds) (IsProduct (.remainder a b)) := by
  intro after ends
  obtain ⟨items, written, known⟩ := first (' ' :: '%' :: ' ' :: ds ++ after)
    (Lexer.endsNumber_mark (by decide) _)
  obtain ⟨more, written', known'⟩ := second after ends
  have operator := (written'.operator ['%'] (by decide)).blank
  exact ⟨_, written.append operator, known.remainder known'⟩

theorem related (r : Option Comparison) (first : Stands cs (IsProduct a))
    (second : Stands ds (IsProduct b)) :
    Stands (cs ++ ' ' :: ((sign r).toList ++ ' ' :: ds)) (IsCondition (related r a b)) := by
  intro after ends
  obtain ⟨items, written, known⟩ := first (' ' :: ((sign r).toList ++ ' ' :: ds) ++ after)
    (Lexer.endsNumber_mark (by decide) _)
  obtain ⟨more, written', known'⟩ := second after ends
  have marks : (sign r).toList ⊆ Lexer.plainMarks := by
    rcases r with _ | c
    · decide
    · cases c <;> decide
  exact ⟨_, written.append (written'.operator _ marks).blank, known.related r known'⟩

/-- A truth value, and a closure for a condition. -/
theorem fallback {items : List Item} {after : List Char} (named : Lexer.IsName x.toList)
    (free : x ∉ Tree.reserved) (written : Writes cs after items) (known : IsCondition b items) :
    ∃ inside, Writes ("true".toList ++ ',' :: ' ' :: '|' :: (x.toList ++ '|' :: ' ' :: cs)) after
      inside ∧ Item.ofGroup? inside = some (.fallback true x b) := by
  have body := written.blank.mark (c := '|') (by decide)
  have parameter := (body.name named (Lexer.endsName_mark (by decide) _)).mark (c := '|')
    (by decide)
  have comma := parameter.blank.mark (c := ',') (by decide)
  refine ⟨_, comma.name (.plain ⟨by decide, Chars.forall_mem_of_all (by decide)⟩)
    (Lexer.endsName_mark (by decide) _), ?_⟩
  have condition : ofItems? items = some b := known
  simp [Item.ofGroup?, free, condition]

/-- A condition on what is there makes one on what may be missing. -/
theorem mapOr (named : Lexer.IsName x.toList) (free : x ∉ Tree.reserved)
    (body : Stands cs (IsCondition b)) :
    Stands (x.toList ++ (".as_ref().map_or(true, |".toList ++
        (x.toList ++ ("| ".toList ++ (cs ++ [')'])))))
      (IsCondition (.mapOr (.asRef (.name x)) true x b)) := by
  intro after ends
  obtain ⟨items, written, known⟩ := body (')' :: after) (Lexer.endsNumber_mark (by decide) _)
  obtain ⟨inside, closure, read⟩ := fallback named free written known
  obtain ⟨joint, held⟩ := Writes.call "map_or"
    (.plain ⟨by decide, Chars.forall_mem_of_all (by decide)⟩) (by simp) closure read (.nil after)
  obtain ⟨joint', calls⟩ := Writes.call "as_ref"
    (.plain ⟨by decide, Chars.forall_mem_of_all (by decide)⟩) (by simp) (.nil _) rfl held
  have whole := calls.name named (Lexer.endsName_mark (by decide) _)
  refine ⟨_, whole.of_eq (by simp), ?_⟩
  simp [IsCondition, ofItems?, product?, breakAt, Item.isMark, signs, percent, operand?, calls?,
    method?, free]

end Stands

theorem ofText?_eq {text : String} {e : Expression} (visible : Visible text.toList)
    (written : Stands text.toList (IsCondition e)) : ofText? text = some e := by
  obtain ⟨items, ⟨size, trees, ⟨tokens, -, lexed, closes⟩, read⟩, known⟩ :=
    written [] Lexer.endsNumber_nil
  rw [ofText?, Tree.ofText, lexed.whole visible, Option.bind_some, closes.whole, Option.bind_some,
    read]
  exact known

end Companion.Code.Expression

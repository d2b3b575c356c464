import Companion.Proofs.Code.Identifiers
import Companion.Proofs.Model.Methods
import Companion.Proofs.Value.Keys

/-! The keys that results are kept under: what is in their type, and what their expression mentions.

A cache is found by keys that it owns. Of a type that is borrowed only the outermost layer is
exchanged for one that is owned.
-/

set_option autoImplicit false

/-! ### Which types own what they are made of, and which have a hash -/

namespace Companion.TypeRef

/-- A reference, or what is only ever there behind one. -/
def isBorrowed : TypeRef → Bool
  | reference .. | slice _ => true
  | t => t.isNamed ["str"]

/-- Nothing in the type is borrowed. -/
def IsOwned (t : TypeRef) : Prop := ∀ u ∈ t.parts, u.isBorrowed = false

/-- Neither a trait object nor a float or a hashed collection is in the type. -/
def IsHashed (t : TypeRef) : Prop :=
  ∀ u ∈ t.parts, u.shape ≠ .traitObject ∧ u.isNamed keylessTypes = false

instance (t : TypeRef) : Decidable t.IsOwned := by unfold IsOwned; infer_instance

instance (t : TypeRef) : Decidable t.IsHashed := by unfold IsHashed; infer_instance

/-- What the owned key of a type takes over from it: what is behind a reference, if that is no text,
of a slice its elements, and of other types everything. -/
def takenOver : TypeRef → List TypeRef
  | reference _ _ (slice element) => [element]
  | reference _ _ referent => if referent.isStr then [] else [referent]
  | t => [t]

variable {t : TypeRef}

theorem isOwned_iff : t.IsOwned ↔ t.isBorrowed = false ∧ ∀ a ∈ t.arguments, a.IsOwned := forall_parts

theorem isHashed_iff : t.IsHashed ↔
    (t.shape ≠ .traitObject ∧ t.isNamed keylessTypes = false) ∧ ∀ a ∈ t.arguments, a.IsHashed :=
  forall_parts

/-- What has no name of its own is hashed with what it is made of. -/
theorem isHashed_iff_of_unnamed (unnamed : t.shape ≠ .path) (concrete : t.shape ≠ .traitObject) :
    t.IsHashed ↔ ∀ a ∈ t.arguments, a.IsHashed := by
  have nameless : t.isNamed keylessTypes = false := by
    cases t <;> first | rfl | exact absurd rfl unnamed
  rw [isHashed_iff, and_iff_right ⟨concrete, nameless⟩]

/-- Texts and lists are owned in place of what is borrowed of them. -/
theorem isOwned_ownedKey_iff : t.ownedKey.1.IsOwned ↔ ∀ u ∈ t.takenOver, u.IsOwned := by
  have text : (named "String").IsOwned := by decide
  have list (element : TypeRef) : (path "Vec" [element]).IsOwned ↔ element.IsOwned := by
    have own : (path "Vec" [element]).isBorrowed = (path "Vec" []).isBorrowed := rfl
    rw [isOwned_iff, own, and_iff_right (by decide)]
    exact List.forall_mem_singleton
  cases t with
  | reference lifetime isMutable referent =>
    -- Only the layer behind the reference is exchanged, and `takenOver` begins below it.
    by_cases isText : referent.isStr
    · cases referent <;> simp [ownedKey, takenOver, isText, text]
      cases isText
    · cases referent <;> simp [ownedKey, takenOver, isText, list] <;> split <;> rfl
  | _ => simp [ownedKey, takenOver]

mutual

/-- The check of keys finds what cannot be hashed, wherever it is. -/
theorem isHashable_iff : ∀ {t : TypeRef}, t.isHashable = true ↔ t.IsHashed
  | .path name arguments => by
    have own : (path name []).isNamed (floats ++ ["HashMap", "HashSet"]) =
        (path name arguments).isNamed keylessTypes := by
      simp [isNamed, floats, keylessTypes, Bool.or_comm]
    rw [isHashable, own, Bool.and_eq_true, Bool.not_eq_true', allHashable_iff, isHashed_iff]
    simp [shape, TypeRef.arguments]
  | .reference .. | .slice _ | .array .. => by
    rw [isHashable, isHashable_iff]
    refine .trans List.forall_mem_singleton.symm (.symm (isHashed_iff_of_unnamed ?_ ?_)) <;> nofun
  | .tuple first others => by
    rw [isHashable, Bool.and_eq_true, isHashable_iff, allHashable_iff]
    refine .trans List.forall_mem_cons.symm (.symm (isHashed_iff_of_unnamed ?_ ?_)) <;> nofun
  | .unit => by
    refine .trans ?_ (.symm (isHashed_iff_of_unnamed ?_ ?_))
    · exact ⟨fun _ => List.forall_mem_nil _, fun _ => rfl⟩
    · nofun
    · nofun
  | .traitObject _ => by
    rw [isHashable, isHashed_iff]
    simp [shape]

theorem allHashable_iff : ∀ {ts : List TypeRef}, allHashable ts = true ↔ ∀ t ∈ ts, t.IsHashed
  | [] => by simp [allHashable]
  | t :: ts => by
    rw [allHashable, Bool.and_eq_true, isHashable_iff, allHashable_iff, List.forall_mem_cons]

end

end Companion.TypeRef

namespace Companion

/-! ### Variables of an expression -/

namespace Code

mutual

def Tree.mentioned : Tree → List String
  | .ident name => [name]
  | .group _ body => mentioned body
  | _ => []

/-- The variables that code mentions, from left to right. What follows a point is a member of
something else. -/
def mentioned : List Tree → List String
  | [] => []
  | .punct '.' _ :: .ident _ :: rest => mentioned rest
  | tree :: rest => tree.mentioned ++ mentioned rest

end

/-- The characters mention the variables, whatever code comes after them. -/
def Mentions (cs after : List Char) (names : List String) : Prop :=
  ∃ size trees, Spells cs after size trees ∧
    ∀ rest, mentioned (trees ++ rest) = names ++ mentioned rest

namespace Mentions

open Lexer (EndsName)

variable {cs ds after : List Char} {names more : List String} {name text : String}

theorem append (first : Mentions cs (ds ++ after) names) (second : Mentions ds after more) :
    Mentions (cs ++ ds) after (names ++ more) := by
  obtain ⟨size, trees, spelled, told⟩ := first
  obtain ⟨size', others, spelled', told'⟩ := second
  refine ⟨_, _, spelled.append spelled', fun rest => ?_⟩
  rw [List.append_assoc, told, told', List.append_assoc]

theorem nil (after : List Char) : Mentions [] after [] := ⟨0, [], .nil after, fun _ => rfl⟩

theorem mark {c : Char} (listed : c ∈ Lexer.plainMarks) (plain : c ≠ '.') (after : List Char) :
    Mentions [c] after [] := by
  refine ⟨_, _, .mark listed after, fun rest => ?_⟩
  rw [List.singleton_append, mentioned.eq_3 _ _ (by simp [plain])]
  rfl

theorem blank (after : List Char) : Mentions [' '] after [] :=
  ⟨0, [], .blank after, fun _ => rfl⟩

theorem padded (pads : Lexer.Pads name.toList text.toList) (ends : EndsName after) :
    Mentions text.toList after [name] := by
  refine ⟨_, _, .padded pads ends, fun rest => ?_⟩
  rw [String.ofList_toList]
  rfl

/-- A call without arguments mentions nothing by itself. -/
theorem call {method : List Char} (named : Lexer.IsName method) (after : List Char) :
    Mentions ('.' :: (method ++ ['(', ')'])) after [] := by
  have arguments : Spells ['(', ')'] after 2 [.group .parenthesis []] :=
    .group rfl rfl (by simp) (.nil _)
  obtain ⟨joint, spelled⟩ := Spells.cons_mark (c := '.') (by decide)
    (arguments.name_append named (Lexer.endsName_mark (by decide) _))
  exact ⟨_, _, spelled, fun rest => rfl⟩

theorem group (clear : (cs ++ ')' :: after).head? ≠ some '/')
    (inside : Mentions cs (')' :: after) names) : Mentions ('(' :: (cs ++ [')'])) after names := by
  obtain ⟨size, trees, spelled, told⟩ := inside
  refine ⟨_, _, .group rfl rfl clear spelled, fun rest => ?_⟩
  have alone := told []
  rw [List.append_nil, mentioned, List.append_nil] at alone
  rw [List.singleton_append, mentioned.eq_3 _ _ (by simp), Tree.mentioned, alone]

theorem whole (mentions : Mentions text.toList [] names) (visible : Visible text.toList) :
    (Tree.ofText text).map mentioned = some names := by
  obtain ⟨size, trees, ⟨tokens, -, lexed, closed⟩, told⟩ := mentions
  have alone := told []
  rw [List.append_nil, mentioned, List.append_nil] at alone
  rw [Tree.ofText, lexed.whole visible, Option.bind_some, closed.whole, Option.map_some, alone]

end Mentions

end Code

/-! ### Keys of a method -/

namespace Model

open Code (IsBare Mentions Visible)
open Code.Lexer (EndsName IsName)

variable {m : Method} {p : Parameter} {name : String} {after : List Char}

/-- What a parameter contributes to the expression of a key. -/
def Parameter.keyText (p : Parameter) : String := p.type.ownedKey.2.apply p.name

theorem Parameter.mentions_keyText (bare : IsBare p.name) (known : Code.ident? p.name = some name)
    (ends : EndsName after) : Mentions p.keyText.toList after [name] := by
  have pads := Code.pads_of_ident? bare known
  have own {after : List Char} (ends : EndsName after) : Mentions p.name.toList after [name] :=
    .padded pads ends
  have called (method : String) (named : IsName method.toList) :
      Mentions (p.name ++ ("." ++ method ++ "()")).toList after [name] := by
    have call := Mentions.call named after
    simpa using (own (Code.Lexer.endsName_mark (by decide) _)).append call
  unfold Parameter.keyText TypeRef.KeyConversion.apply
  cases p.type.ownedKey.2 with
  | copy => exact own ends
  | deref => simpa using (Mentions.mark (c := '*') (by decide) (by decide) _).append (own ends)
  | clone => exact called "clone" (.plain ⟨by decide, Chars.forall_mem_of_all (by decide)⟩)
  | toOwned => exact called "to_owned" (.plain ⟨by decide, Chars.forall_mem_of_all (by decide)⟩)
  | toVec => exact called "to_vec" (.plain ⟨by decide, Chars.forall_mem_of_all (by decide)⟩)

theorem Parameter.visible_keyText (bare : IsBare p.name) (known : Code.ident? p.name = some name) :
    Visible p.keyText.toList := by
  have own : Visible p.name.toList := bare.visible (Code.pads_of_ident? bare known)
  have called (call : String) : Visible (p.name ++ call).toList := by
    rw [String.toList_append]
    exact own.append _
  unfold Parameter.keyText TypeRef.KeyConversion.apply
  cases p.type.ownedKey.2 with
  | copy => exact own
  | deref => exact ⟨'*', p.name.toList, by simp, by decide, by decide⟩
  | clone | toOwned | toVec => exact called _

/-- Parameters are told apart by commas, each with its own conversion. -/
theorem mentions_keyTexts {parameters : List Parameter} {names : List String}
    (bare : ∀ p ∈ parameters, IsBare p.name)
    (known : parameters.map (Code.ident? ·.name) = names.map some) (ends : EndsName after) :
    Mentions (", ".intercalate (parameters.map Parameter.keyText)).toList after names := by
  induction parameters generalizing names with
  | nil =>
    cases List.map_eq_nil_iff.mp known.symm
    exact .nil after
  | cons p others ih =>
    obtain ⟨first, rest⟩ := List.forall_mem_cons.mp bare
    obtain ⟨name, more, rfl, own, known⟩ := List.map_eq_cons_iff.mp known.symm
    have told := ih rest known.symm
    -- Behind the last parameter comes what comes after all of them, behind the others a comma.
    cases others with
    | nil =>
      cases List.map_eq_nil_iff.mp known
      simpa using p.mentions_keyText first own.symm ends
    | cons q others =>
      have comma (after : List Char) : Mentions (", ").toList after [] :=
        (Mentions.mark (c := ',') (by decide) (by decide) _).append (.blank after)
      have own := p.mentions_keyText first own.symm (Code.Lexer.endsName_mark (c := ',') (by decide)
        (' ' :: ((", ".intercalate ((q :: others).map Parameter.keyText)).toList ++ after)))
      rw [List.map_cons, List.map_cons, String.intercalate_cons_cons, String.toList_append,
        String.toList_append, ← List.map_cons, List.append_assoc]
      exact own.append ((comma _).append told)

theorem visible_keyTexts {parameters : List Parameter} {names : List String}
    (bare : ∀ p ∈ parameters, IsBare p.name)
    (known : parameters.map (Code.ident? ·.name) = names.map some) (nonempty : parameters ≠ []) :
    Visible (", ".intercalate (parameters.map Parameter.keyText)).toList := by
  obtain ⟨p, others, rfl⟩ := List.exists_cons_of_ne_nil nonempty
  obtain ⟨_, _, -, own, -⟩ := List.map_eq_cons_iff.mp known.symm
  have first := p.visible_keyText (bare p List.mem_cons_self) own.symm
  cases others with
  | nil => simpa using first
  | cons q others =>
    rw [List.map_cons, List.map_cons, String.intercalate_cons_cons, String.toList_append,
      String.toList_append, List.append_assoc]
    exact first.append _

/-- A key of one part stands without parentheses. -/
theorem Method.cacheKey_snd (m : Method) : m.cacheKey.2 =
    match m.parameters with
    | [p] => p.keyText
    | parameters => "(" ++ ", ".intercalate (parameters.map Parameter.keyText) ++ ")" := by
  unfold cacheKey
  match m.parameters with
  | [] => decide
  | [p] => rfl
  | p :: q :: others =>
    simp only [List.map_cons, List.map_map]
    rfl

theorem Method.mentions_cacheKey {names : List String} (bare : ∀ p ∈ m.parameters, IsBare p.name)
    (known : m.parameters.map (Code.ident? ·.name) = names.map some) :
    (Code.Tree.ofText m.cacheKey.2).map Code.mentioned = some names := by
  rw [cacheKey_snd]
  split
  next p one =>
    rw [one] at bare known
    have told : Mentions _ [] names := mentions_keyTexts bare known trivial
    have visible := visible_keyTexts bare known (by simp)
    rw [List.map_singleton, String.intercalate_singleton] at told visible
    exact told.whole visible
  next =>
    have inside : Mentions _ [')'] names :=
      mentions_keyTexts bare known (Code.Lexer.endsName_mark (by decide) _)
    -- A slash behind the parenthesis could make it open the text of a literal that failed.
    have clear : ((", ".intercalate (m.parameters.map Parameter.keyText)).toList ++ [')']).head? ≠
        some '/' := by
      by_cases none : m.parameters = []
      · simp [none]
      · exact ((visible_keyTexts bare known none).append _).ne_slash
    have split : ("(" ++ ", ".intercalate (m.parameters.map Parameter.keyText) ++ ")").toList =
        '(' :: ((", ".intercalate (m.parameters.map Parameter.keyText)).toList ++ [')']) := by
      simp
    refine Mentions.whole ?_ ⟨'(', _, split, by decide, by decide⟩
    rw [split]
    exact .group clear inside

/-- A key is made of the owned types of the parameters. -/
theorem Method.forall_parts_cacheKey {P : TypeRef → Prop} (unit : P .unit)
    (tuple : ∀ first others, P (.tuple first others)) :
    (∀ u ∈ m.cacheKey.1.parts, P u) ↔
      ∀ p ∈ m.parameters, ∀ u ∈ p.type.ownedKey.1.parts, P u := by
  unfold cacheKey
  match m.parameters with
  | [] => simp [TypeRef.parts, unit]
  | [p] => simp
  | p :: q :: others =>
    rw [TypeRef.forall_parts]
    simp [tuple, TypeRef.arguments]

theorem Method.isOwned_cacheKey_iff :
    m.cacheKey.1.IsOwned ↔ ∀ p ∈ m.parameters, p.type.ownedKey.1.IsOwned := by
  unfold TypeRef.IsOwned
  apply forall_parts_cacheKey
  · rfl
  · intro first others
    rfl

theorem Method.isHashed_cacheKey_iff :
    m.cacheKey.1.IsHashed ↔ ∀ p ∈ m.parameters, p.type.ownedKey.1.IsHashed := by
  unfold TypeRef.IsHashed
  apply forall_parts_cacheKey
  · simp [TypeRef.shape, TypeRef.isNamed]
  · simp [TypeRef.shape, TypeRef.isNamed]

variable {maxCacheArity : Nat} {l : Location} {method : Declaration.Method}

theorem exists_identifiers (checked : (checkMethod maxCacheArity l method).value = some m) :
    ∃ names : List String, m.parameters.map (Code.ident? ·.name) = names.map some := by
  have each : ∀ p ∈ m.parameters, ∃ name, Code.ident? p.name = some name := fun p member =>
    Code.exists_ident? (isIdent_of_checkMethod checked member)
  generalize m.parameters = parameters at each
  induction parameters with
  | nil => exact ⟨[], rfl⟩
  | cons p others ih =>
    obtain ⟨⟨name, own⟩, rest⟩ := List.forall_mem_cons.mp each
    obtain ⟨names, known⟩ := ih rest
    exact ⟨name :: names, by rw [List.map_cons, own, known, List.map_cons]⟩

/-- The key of a method whose results are kept, and of which nothing is reported. Its type can be
hashed: neither a float, a trait object nor a hashed collection is in it. It is owned exactly if
nothing borrowed is in what keys take over from the types of the parameters, which is not looked at.
Its expression mentions each parameter once, in order, if no comment is in their names. -/
theorem cacheKey_isOwned_iff (checked : (checkMethod maxCacheArity l method).value = some m)
    (silent : (checkMethod maxCacheArity l method).diagnostics = []) (cached : m.isCached = true) :
    m.cacheKey.1.IsHashed ∧
      (m.cacheKey.1.IsOwned ↔ ∀ p ∈ m.parameters, ∀ t ∈ p.type.takenOver, t.IsOwned) ∧
      ∃ names : List String, m.parameters.map (Code.ident? ·.name) = names.map some ∧
        ((∀ p ∈ m.parameters, IsBare p.name) →
          (Code.Tree.ofText m.cacheKey.2).map Code.mentioned = some names) := by
  refine ⟨?_, ?_, ?_⟩
  · rw [Method.isHashed_cacheKey_iff]
    intro p member
    exact TypeRef.isHashable_iff.mp (isHashable_of_checkMethod checked silent cached member)
  · rw [Method.isOwned_cacheKey_iff]
    exact forall₂_congr fun p _ => TypeRef.isOwned_ownedKey_iff
  · obtain ⟨names, known⟩ := exists_identifiers checked
    exact ⟨names, known, fun bare => Method.mentions_cacheKey bare known⟩

/-- A text that is borrowed makes an owned key, an optional one does not. Both methods are accepted
in silence. -/
theorem cacheKey_isOwned_iff_optional :
    let find (type : String) : Checked Method := checkMethod 8 default
      ⟨"find", [⟨"name", type, []⟩], some "u64", [], ["cached"], some "0"⟩
    (∃ m, (find "&str").value = some m ∧ m.cacheKey.1.IsOwned) ∧
      ∃ m, (find "Option<&str>").value = some m ∧ (find "Option<&str>").diagnostics = [] ∧
        ¬m.cacheKey.1.IsOwned := by
  intro find
  have accepted (type : String) (owned : Bool)
      (known : ((find type).value.map fun m => (m.isCached,
        decide (∀ p ∈ m.parameters, ∀ t ∈ p.type.takenOver, t.IsOwned))) = some (true, owned))
      (silent : (find type).diagnostics = []) :
      ∃ m, (find type).value = some m ∧ (m.cacheKey.1.IsOwned ↔ owned = true) := by
    obtain ⟨m, built, same⟩ := Option.map_eq_some_iff.mp known
    obtain ⟨cached, same⟩ := Prod.mk.inj same
    refine ⟨m, built, ?_⟩
    rw [(cacheKey_isOwned_iff built silent cached).2.1, ← same, decide_eq_true_iff]
  have silent : (find "&str").diagnostics = [] ∧ (find "Option<&str>").diagnostics = [] := by
    decide +kernel
  obtain ⟨m, built, owned⟩ := accepted "&str" true (by decide +kernel) silent.1
  obtain ⟨m', built', borrowed⟩ := accepted "Option<&str>" false (by decide +kernel) silent.2
  exact ⟨⟨m, built, owned.mpr rfl⟩, m', built', silent.2, fun own => Bool.false_ne_true (borrowed.mp own)⟩

end Model

end Companion

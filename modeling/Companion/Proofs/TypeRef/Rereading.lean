import Companion.Proofs.Code.Forms
import Companion.Proofs.Results
import Companion.TypeRef.Basic

/-! The texts of types are read again, form by form.

What a type needs of its parts is that they are read again in front of whatever may follow them,
and that its text and the trees of its parts show no other form at their start.
-/

set_option autoImplicit false

namespace Companion.TypeRef

open Code Code.Lexer

/-- The text of the type stands for the type again: it is read whole wherever a type ends, or it
stalls. A sum of bounds stalls where no plus sign may stand. -/
def Rereads (t : TypeRef) (sum stalls : Bool) : Prop :=
  Visible t.render.toList ∧ ∀ after, EndsName after → ∃ size trees e,
    Spells t.render.toList after size trees ∧ BeginsType trees ∧ ofExpr e = .ok t ∧
      ∀ depth, size ≤ depth → ∀ plus rest, EndsType rest →
        Gives e rest (stalls || (!plus && sum))
          (((Grammar.level depth).type plus).run (trees ++ rest))

/-- All types of a list are read again, or the list stalls at one of them. -/
inductive AreReread : List TypeRef → Bool → Prop
  | nil : AreReread [] false
  | cons {t : TypeRef} {others : List TypeRef} {sum stalls stalls' : Bool}
      (first : Rereads t sum stalls) (more : AreReread others stalls') :
      AreReread (t :: others) (stalls || stalls')

/-! ### Lists -/

/-- The types as they are written in a list. -/
def renderAll : List TypeRef → String
  | [] => ""
  | t :: others => t.render ++ renderMore others

theorem renderAll_cons (t : TypeRef) (others : List TypeRef) :
    renderAll (t :: others) = t.render ++ renderMore others := rfl

theorem renderMore_nil : renderMore [] = "" := rfl

theorem renderMore_cons (t : TypeRef) (others : List TypeRef) :
    renderMore (t :: others) = ", " ++ renderAll (t :: others) :=
  String.append_assoc ..

theorem ofExprs_cons {e : TypeExpr} {es : List TypeExpr} {t : TypeRef} {others : List TypeRef}
    (first : ofExpr e = .ok t) (more : ofExprs es = .ok others) :
    ofExprs (e :: es) = .ok (t :: others) :=
  bind_eq_ok.mpr ⟨t, first, bind_eq_ok.mpr ⟨others, more, rfl⟩⟩

theorem AreReread.spells {t : TypeRef} {others : List TypeRef} {stalls : Bool}
    (read : AreReread (t :: others) stalls) {after : List Char} (ends : EndsName after) :
    ∃ size trees es, Spells (renderAll (t :: others)).toList after size trees ∧
      ofExprs es = .ok (t :: others) ∧ ∀ depth, size ≤ depth →
        ItemsRead ((Grammar.level depth).type true) trees es stalls := by
  induction others generalizing t stalls with
  | nil =>
    cases read with
    | cons first more =>
      cases more
      obtain ⟨size, trees, e, spelled, begins, same, reads⟩ := first.2 after ends
      refine ⟨size, trees, [e], ?_, ofExprs_cons same rfl, fun depth enough => ?_⟩
      · simpa [renderAll_cons, renderMore_nil] using spelled
      · exact .last begins fun rest ends => by simpa using reads depth enough true rest ends.1
  | cons second others ih =>
    cases read with
    | cons first more =>
      obtain ⟨size', trees', es, spelled', sames, reads'⟩ := ih more
      obtain ⟨joint, separated⟩ := Spells.cons_mark (c := ',') (by decide) spelled'.cons_blank
      obtain ⟨size, trees, e, spelled, begins, same, reads⟩ :=
        first.2 (',' :: ' ' :: ((renderAll (second :: others)).toList ++ after))
          (endsName_mark (by decide) _)
      refine ⟨size + (size' + 1), trees ++ .punct ',' joint :: trees', e :: es, ?_,
        ofExprs_cons same sames, fun depth enough => ?_⟩
      · rw [renderAll_cons, renderMore_cons]
        simpa using spelled.append separated
      · exact .more begins
          (fun rest ends => by simpa using reads depth (by omega) true rest ends.1) joint
          (reads' depth (by omega))

/-! ### Paths -/

theorem render_path_nil (name : String) : render (.path name []) = name := rfl

theorem render_path_cons (name : String) (t : TypeRef) (others : List TypeRef) :
    render (.path name (t :: others)) = name ++ ("<" ++ (renderAll (t :: others) ++ ">")) := by
  change name ++ "<" ++ t.render ++ renderMore others ++ ">" = _
  simp only [renderAll_cons, String.append_assoc]

theorem render_append (before name : String) (arguments : List TypeRef) :
    render (.path (before ++ name) arguments) = before ++ render (.path name arguments) := by
  cases arguments with
  | nil => rfl
  | cons t others => simp only [render_path_cons, String.append_assoc]

theorem ofArgumentList_map (es : List TypeExpr) : ofArgumentList (es.map .type) = ofExprs es := by
  induction es with
  | nil => rfl
  | cons e es ih =>
    change (do return (← ofExpr e) :: (← ofArgumentList (es.map .type))) = _
    rw [ih]
    rfl

/-- The text of a path from its first name on, and the trees that it spells. -/
structure SpellsPath (name : String) (arguments : List TypeRef) (stalls : Bool) (first : String)
    (after letters : List Char) (size : Nat) (more : List Tree) (segments : List Segment) :
    Prop where
  text : (render (.path name arguments)).toList = first.toList ++ letters
  spelled : Spells (first.toList ++ letters) after (size + 1) (.ident first :: more)
  same : ofSegments segments = .ok (name, arguments)
  read : ∀ depth, size ≤ depth →
    Grammar.SegmentsRead (.level depth) (.ident first :: more) segments stalls

theorem exists_spellsPath_last {name : String} {arguments : List TypeRef} {stalls : Bool}
    (named : IsPathName name) (suits : arguments ≠ [] → name ∉ pathKeywords)
    (read : AreReread arguments stalls) {after : List Char} (ends : EndsName after) :
    ∃ letters size more segments,
      SpellsPath name arguments stalls name after letters size more segments := by
  cases arguments with
  | nil =>
    cases read
    have spelled := Spells.name_append named.1 (by simpa using ends) (Spells.nil after)
    rw [String.ofList_toList] at spelled
    exact ⟨[], 0, [], [.mk name .none], by simp [render_path_nil], spelled, rfl,
      fun depth enough => .last (.plain named.2)⟩
  | cons t others =>
    obtain ⟨size, trees, es, inside, same, reads⟩ :=
      read.spells (endsName_mark (c := '>') (by decide) after)
    obtain ⟨closing, closed⟩ := Spells.cons_mark (c := '>') (by decide) (Spells.nil after)
    obtain ⟨opening, angled⟩ := Spells.cons_mark (c := '<') (by decide) (inside.append closed)
    have spelled := Spells.name_append named.1 (endsName_mark (c := '<') (by decide) _) angled
    rw [String.ofList_toList] at spelled
    have same : ofSegments [.mk name (.angled (es.map .type))] = .ok (name, t :: others) :=
      bind_eq_ok.mpr ⟨t :: others, (ofArgumentList_map es).trans same, rfl⟩
    exact ⟨_, _, _, [.mk name (.angled (es.map .type))], by simp [render_path_cons], spelled, same,
      fun depth enough => .last
        (.generic named.2 (suits (by simp)) opening closing (reads depth (by omega)))⟩

theorem ofSegments_cons {segments : List Segment} {name others : String}
    {arguments : List TypeRef} (given : segments ≠ [])
    (same : ofSegments segments = .ok (others, arguments)) :
    ofSegments (.mk name .none :: segments) = .ok (name ++ "::" ++ others, arguments) := by
  obtain ⟨second, more, rfl⟩ := List.exists_cons_of_ne_nil given
  cases second
  exact bind_eq_ok.mpr ⟨(others, arguments), same, rfl⟩

theorem suits_of_ofArguments {given : Code.Arguments} {name : String} {arguments : List TypeRef}
    (suits : given.Suit name) (same : ofArguments given = .ok arguments) :
    arguments ≠ [] → name ∉ pathKeywords := by
  cases given with
  | none =>
    cases same
    exact absurd rfl
  | angled => exact fun _ => suits
  | signature => cases same

theorem exists_spellsPath {segment : Segment} {others : List Segment} {name : String}
    {arguments : List TypeRef} {stalls : Bool} (written : AreSegmentsWritten (segment :: others))
    (same : ofSegments (segment :: others) = .ok (name, arguments))
    (read : AreReread arguments stalls) {after : List Char} (ends : EndsName after) :
    ∃ letters size more segments,
      SpellsPath name arguments stalls segment.name after letters size more segments := by
  induction others generalizing segment name with
  | nil =>
    obtain ⟨name', given⟩ := segment
    obtain ⟨arguments, found, same⟩ := bind_eq_ok.mp same
    cases same
    obtain ⟨⟨named, suits, -⟩, -⟩ := written
    exact exists_spellsPath_last named (suits_of_ofArguments suits found) read ends
  | cons second others ih =>
    obtain ⟨name', _ | given | output⟩ := segment
    · obtain ⟨_, _⟩ := second
      obtain ⟨⟨name, arguments⟩, found, same⟩ := bind_eq_ok.mp same
      cases same
      obtain ⟨⟨named, -⟩, written⟩ := written
      obtain ⟨letters, size, more, segments, path⟩ := ih written found
      have next := Spells.cons_colons written.1.1.1 path.spelled
      have spelled := Spells.name_append named.1 (endsName_mark (c := ':') (by decide) _) next
      rw [String.ofList_toList] at spelled
      refine ⟨_, _, _, .mk name' .none :: segments, ?_, spelled, ?_, fun depth enough => ?_⟩
      · simp [render_append, path.text, Segment.name]
      · exact ofSegments_cons (path.read _ le_rfl).ne_nil path.same
      · exact .more named.2 (path.read depth (by omega))
    · cases same
    · cases same

theorem spells_rooted (absolute : Bool) {name : String} (named : IsName name.toList)
    {letters after : List Char} {size : Nat} {trees : List Tree}
    (spelled : Spells (name.toList ++ letters) after size trees) :
    ∃ extra, Spells ((if absolute then "::" else "").toList ++ (name.toList ++ letters))
      after (size + extra) (Grammar.colons absolute ++ trees) := by
  cases absolute with
  | false => exact ⟨0, spelled⟩
  | true => exact ⟨2, by simpa [Grammar.colons] using Spells.cons_colons named spelled⟩

theorem visible_rooted (absolute : Bool) {name : String} (named : IsName name.toList)
    (letters : List Char) :
    Visible ((if absolute then "::" else "").toList ++ (name.toList ++ letters)) := by
  cases absolute with
  | false => exact (Visible.name named).append letters
  | true => exact ⟨':', ':' :: (name.toList ++ letters), by simp, by decide, by decide⟩

/-- A path is spelled and read again, wherever it stands. -/
theorem exists_spells_path {path : Path} {name : String} {arguments : List TypeRef} {stalls : Bool}
    (written : path.IsWritten) (same : ofPath path = .ok (name, arguments))
    (read : AreReread arguments stalls) {after : List Char} (ends : EndsName after) :
    Visible (render (.path name arguments)).toList ∧
    ∃ size first more segments,
      Spells (render (.path name arguments)).toList after (size + 1)
        (Grammar.colons path.absolute ++ .ident first :: more) ∧
      path.segments.head?.map Segment.name = some first ∧ StandsInPath first ∧
      ofPath (.mk path.absolute segments) = .ok (name, arguments) ∧
      ∀ depth, size ≤ depth →
        Grammar.SegmentsRead (.level depth) (.ident first :: more) segments stalls := by
  obtain ⟨absolute, segments⟩ := path
  obtain ⟨given, written⟩ := written
  obtain ⟨⟨first, given⟩, others, rfl⟩ := List.exists_cons_of_ne_nil given
  obtain ⟨⟨name, arguments⟩, found, same⟩ := bind_eq_ok.mp same
  cases same
  obtain ⟨letters, size, more, segments, path⟩ := exists_spellsPath written found read ends
  have named : IsPathName first := written.1.1
  have text : (render (.path ((if absolute then "::" else "") ++ name) arguments)).toList =
      (if absolute then "::" else "").toList ++ (first.toList ++ letters) := by
    rw [render_append, String.toList_append, path.text]
    rfl
  obtain ⟨extra, spelled⟩ := spells_rooted absolute named.1 path.spelled
  rw [Nat.add_right_comm] at spelled
  rw [text]
  refine ⟨visible_rooted absolute named.1 letters, size + extra, first, more, segments, spelled,
    rfl, named.2, ?_, fun depth enough => path.read depth (by omega)⟩
  exact bind_eq_ok.mpr ⟨_, path.same, rfl⟩

theorem not_atWord_try_of_begins {path : Path} {first : String} (begins : path.BeginsType)
    (head : path.segments.head?.map Segment.name = some first) (more : List Tree) :
    Tree.atWord "try" (Grammar.colons path.absolute ++ .ident first :: more) = false := by
  obtain ⟨segment, member, rfl⟩ := Option.map_eq_some_iff.mp head
  rcases begins with rooted | other
  · rw [rooted]
    rfl
  · cases path.absolute with
    | false => exact beq_false_of_ne (other segment member)
    | true => rfl

theorem rereads_path {path : Path} {name : String} {arguments : List TypeRef} {stalls : Bool}
    (written : path.IsWritten) (begins : path.BeginsType)
    (same : ofPath path = .ok (name, arguments)) (read : AreReread arguments stalls) :
    Rereads (.path name arguments) false stalls := by
  have ends : EndsName [] := trivial
  have visible := (exists_spells_path written same read ends).1
  refine ⟨visible, fun after ends => ?_⟩
  obtain ⟨-, size, first, more, segments, spelled, head, stands, same, reads⟩ :=
    exists_spells_path written same read ends
  refine ⟨size + 1, _, .path false (.mk path.absolute segments), spelled,
    Grammar.beginsType_path path.absolute stands more, ?_, fun depth enough plus rest ends => ?_⟩
  · exact bind_eq_ok.mpr ⟨_, same, rfl⟩
  · obtain ⟨depth, rfl⟩ : ∃ d, depth = d + 1 := ⟨depth - 1, by omega⟩
    have opens := not_atWord_try_of_begins begins head more
    rw [Bool.and_false, Bool.or_false, List.append_assoc]
    exact .of_eq (Grammar.run_readType_path path.absolute plus (reads depth (by omega)) opens ends)

/-! ### References -/

theorem spells_mut (isMutable : Bool) {letters after : List Char} {size : Nat} {trees : List Tree}
    (spelled : Spells letters after size trees) :
    ∃ extra, Spells ((if isMutable then "mut " else "").toList ++ letters) after (size + extra)
      (Grammar.mutTrees isMutable ++ trees) := by
  cases isMutable with
  | false => exact ⟨0, spelled⟩
  | true =>
    exact ⟨1, Spells.name_append isName_mut (endsName_mark (c := ' ') (by decide) _)
      spelled.cons_blank⟩

def lifetimeText : Option String → String
  | some name => "'" ++ name ++ " "
  | none => ""

theorem render_reference (lifetime : Option String) (isMutable : Bool) (t : TypeRef) :
    render (.reference lifetime isMutable t) =
      "&" ++ lifetimeText lifetime ++ (if isMutable then "mut " else "") ++ t.render := by
  cases lifetime <;> rfl

theorem spells_lifetime {lifetime : Option String} (named : ∀ name ∈ lifetime, IsName name.toList)
    {letters after : List Char} {size : Nat} {trees : List Tree}
    (spelled : Spells letters after size trees) :
    ∃ extra, Spells ((lifetimeText lifetime).toList ++ letters) after (size + extra)
      (Grammar.lifetimeTrees lifetime ++ trees) := by
  cases lifetime with
  | none => exact ⟨0, spelled⟩
  | some name =>
    have known := named name rfl
    have ends := endsName_mark (c := ' ') (by decide) (letters ++ after)
    have first := Spells.name_append known ends spelled.cons_blank
    rw [String.ofList_toList] at first
    have whole := Spells.cons_quote known ends first
    exact ⟨2, by simpa [Grammar.lifetimeTrees, lifetimeText] using whole⟩

theorem Rereads.reference {t : TypeRef} {sum stalls : Bool} {lifetime : Option String}
    (named : ∀ name ∈ lifetime, IsName name.toList) (isMutable : Bool)
    (read : Rereads t sum stalls) :
    Rereads (.reference lifetime isMutable t) false (sum || stalls) := by
  have text : (render (.reference lifetime isMutable t)).toList = '&' ::
      ((lifetimeText lifetime).toList ++
        ((if isMutable then "mut " else "").toList ++ t.render.toList)) := by
    simp [render_reference]
  rw [Rereads, text]
  refine ⟨⟨'&', _, rfl, by decide, by decide⟩, fun after ends => ?_⟩
  obtain ⟨size, trees, e, spelled, begins, same, reads⟩ := read.2 after ends
  obtain ⟨extra, spelled⟩ := spells_mut isMutable spelled
  obtain ⟨extra', spelled⟩ := spells_lifetime named spelled
  obtain ⟨joint, spelled⟩ := Spells.cons_mark (c := '&') (by decide) spelled
  refine ⟨_, _, .reference lifetime isMutable e, spelled, by simp [BeginsType], ?_,
    fun depth enough plus rest ends => ?_⟩
  · exact bind_eq_ok.mpr ⟨_, same, rfl⟩
  · obtain ⟨depth, rfl⟩ : ∃ d, depth = d + 1 := ⟨depth - 1, by omega⟩
    -- the referent stands where no plus sign may, so that a sum of bounds stalls there
    have given := reads depth (by omega) false rest ends
    have whole := Grammar.gives_reference plus joint lifetime isMutable (begins.append rest) given
    simpa [Bool.or_comm] using whole

/-! ### Groups -/

theorem render_slice (t : TypeRef) : render (.slice t) = "[" ++ t.render ++ "]" := rfl

theorem render_array (t : TypeRef) (length : String) :
    render (.array t length) = "[" ++ t.render ++ "; " ++ length ++ "]" := rfl

theorem Rereads.slice {t : TypeRef} {sum stalls : Bool} (read : Rereads t sum stalls) :
    Rereads (.slice t) false stalls := by
  have text : (render (.slice t)).toList = '[' :: (t.render.toList ++ [']']) := by
    simp [render_slice]
  rw [Rereads, text]
  refine ⟨⟨'[', _, rfl, by decide, by decide⟩, fun after ends => ?_⟩
  obtain ⟨size, trees, e, spelled, begins, same, reads⟩ :=
    read.2 (']' :: after) (endsName_mark (by decide) after)
  refine ⟨_, _, .slice e, .group rfl rfl (read.1.append _).ne_slash spelled,
    by simp [BeginsType], ?_, fun depth enough plus rest ends => ?_⟩
  · exact bind_eq_ok.mpr ⟨_, same, rfl⟩
  · obtain ⟨depth, rfl⟩ : ∃ d, depth = d + 1 := ⟨depth - 1, by omega⟩
    rw [Bool.and_false, Bool.or_false]
    exact .of_eq (Grammar.run_readType_slice plus (by simpa using reads depth (by omega) true) rest)

theorem Rereads.array {t : TypeRef} {sum stalls : Bool} (read : Rereads t sum stalls) (n : Nat) :
    Rereads (.array t (toString n)) false stalls := by
  have text : (render (.array t (toString n))).toList =
      '[' :: ((t.render.toList ++ ';' :: ' ' :: (toString n).toList) ++ [']']) := by
    simp [render_array]
  rw [Rereads, text]
  refine ⟨⟨'[', _, rfl, by decide, by decide⟩, fun after ends => ?_⟩
  have digits := Spells.digits n (Lexer.endsNumber_mark (c := ']') (by decide) after)
  obtain ⟨joint, length⟩ := Spells.cons_mark (c := ';') (by decide) digits.cons_blank
  obtain ⟨size, trees, e, spelled, begins, same, reads⟩ := read.2
    (';' :: ' ' :: (toString n).toList ++ ']' :: after) (endsName_mark (by decide) _)
  refine ⟨_, _, .array e (some (toString n)),
    .group rfl rfl ((read.1.append _).append _).ne_slash (spelled.append length),
    by simp [BeginsType], ?_, fun depth enough plus rest ends => ?_⟩
  · exact bind_eq_ok.mpr ⟨_, same, rfl⟩
  · -- the element is read one level down, and the length two
    obtain ⟨depth, rfl⟩ : ∃ d, depth = d + 2 := ⟨depth - 2, by omega⟩
    have counted := Grammar.run_readExpr_literal (g := .level depth) (toString n)
    rw [Bool.and_false, Bool.or_false, ← Number.integerDigits?_toString]
    exact .of_eq (Grammar.run_readType_array plus joint
      (by simpa using reads (depth + 1) (by omega) true) counted rfl rest)

theorem rereads_unit : Rereads .unit false false := by
  refine ⟨⟨'(', [')'], rfl, by decide, by decide⟩, fun after ends => ?_⟩
  refine ⟨_, _, .tuple [], .group (c := '(') (d := ')') rfl rfl (by simp) (.nil _),
    by simp [BeginsType], rfl, fun depth enough plus rest ends => ?_⟩
  obtain ⟨depth, rfl⟩ : ∃ d, depth = d + 1 := ⟨depth - 1, by omega⟩
  rw [Bool.and_false, Bool.or_false]
  exact .of_eq (Grammar.run_readType_unit plus rest)

/-- A tuple after its first element. -/
def renderTail : List TypeRef → String
  | [] => ","
  | second :: others => renderMore (second :: others)

theorem render_tuple (t : TypeRef) (others : List TypeRef) :
    render (.tuple t others) = "(" ++ t.render ++ renderTail others ++ ")" := by
  cases others with
  | nil =>
    change "(" ++ t.render ++ ",)" = "(" ++ t.render ++ "," ++ ")"
    simp only [String.append_assoc, String.reduceAppend]
  | cons => rfl

theorem AreReread.spells_tail {others : List TypeRef} {stalls : Bool}
    (read : AreReread others stalls) (after : List Char) :
    ∃ size joint trees es letters, (renderTail others).toList = ',' :: letters ∧
      Spells (',' :: letters) (')' :: after) (size + 1) (.punct ',' joint :: trees) ∧
      ofExprs es = .ok others ∧ ∀ depth, size ≤ depth →
        (Reader.separated "," ((Grammar.level depth).type true)).run trees =
          if stalls then none else some (es, []) := by
  cases others with
  | nil =>
    cases read
    obtain ⟨joint, comma⟩ := Spells.cons_mark (c := ',') (by decide) (Spells.nil (')' :: after))
    exact ⟨0, joint, [], [], [], by simp [renderTail], comma, rfl, fun _ _ => rfl⟩
  | cons second others =>
    obtain ⟨size, trees, es, spelled, same, reads⟩ :=
      read.spells (endsName_mark (c := ')') (by decide) after)
    obtain ⟨joint, comma⟩ := Spells.cons_mark (c := ',') (by decide) spelled.cons_blank
    refine ⟨size, joint, trees, es, _, ?_, comma, same, fun depth enough => ?_⟩
    · simp [renderTail, renderMore_cons]
    · have listed := run_listed stopsList_isEmpty endsItem_nil rfl (reads depth enough)
      rwa [List.append_nil, ← Reader.separated_eq] at listed

theorem rereads_tuple {t : TypeRef} {others : List TypeRef} {stalls : Bool}
    (read : AreReread (t :: others) stalls) : Rereads (.tuple t others) false stalls := by
  cases read with
  | @cons _ _ sum stalls stalls' first more =>
    have text : (render (.tuple t others)).toList =
        '(' :: ((t.render.toList ++ (renderTail others).toList) ++ [')']) := by
      simp [render_tuple]
    rw [Rereads, text]
    refine ⟨⟨'(', _, rfl, by decide, by decide⟩, fun after ends => ?_⟩
    obtain ⟨size', joint, trees', es, letters, tail, spelled', sames, reads'⟩ :=
      more.spells_tail after
    obtain ⟨size, trees, e, spelled, begins, same, reads⟩ :=
      first.2 (',' :: letters ++ ')' :: after) (endsName_mark (by decide) _)
    rw [tail]
    refine ⟨_, _, .tuple (e :: es),
      .group rfl rfl ((first.1.append _).append _).ne_slash (spelled.append spelled'),
      by simp [BeginsType], ?_, fun depth enough plus rest ends => ?_⟩
    · exact bind_eq_ok.mpr ⟨_, ofExprs_cons same sames, rfl⟩
    · obtain ⟨depth, rfl⟩ : ∃ d, depth = d + 1 := ⟨depth - 1, by omega⟩
      rw [Bool.and_false, Bool.or_false]
      exact .of_eq (Grammar.run_readType_tuple plus joint begins
        (by simpa using reads depth (by omega) true) (reads' depth (by omega)) rest)

/-! ### Trait objects -/

/-- A bound is spelled and read again, wherever it stands among others. -/
def BoundRereads (text : String) (isTrait stalls : Bool) : Prop :=
  ∀ after, EndsName after → ∃ size trees b,
    Spells text.toList after size trees ∧
      (∀ rest, Grammar.atBound ⟨false, false⟩ (trees ++ rest) = true ∧
        Tree.atOperator "*" (trees ++ rest) = false) ∧
      ofBounds [b] = .ok [text] ∧ Grammar.hasTrait [b] = isTrait ∧
      ∀ depth, size ≤ depth → Grammar.ReadsBound (.level depth) ⟨false, false⟩ trees b stalls

/-- All bounds of a sum are read again, or the sum stalls at one of them. -/
inductive AreBoundsReread : List String → Bool → Bool → Prop
  | nil : AreBoundsReread [] false false
  | cons {text : String} {texts : List String} {isTrait object stalls stalls' : Bool}
      (first : BoundRereads text isTrait stalls) (more : AreBoundsReread texts object stalls') :
      AreBoundsReread (text :: texts) (isTrait || object) (stalls || stalls')

theorem ofBounds_cons {b : Bound} {bs : List Bound} {text : String} {texts : List String}
    (first : ofBounds [b] = .ok [text]) (more : ofBounds bs = .ok texts) :
    ofBounds (b :: bs) = .ok (text :: texts) := by
  cases b with
  | trait path =>
    obtain ⟨⟨name, arguments⟩, found, same⟩ := bind_eq_ok.mp first
    cases same
    exact bind_eq_ok.mpr ⟨_, found, bind_eq_ok.mpr ⟨_, more, rfl⟩⟩
  | lifetime name =>
    cases first
    exact bind_eq_ok.mpr ⟨_, more, rfl⟩
  | capture => cases first
  | other => cases first

theorem hasTrait_cons (b : Bound) (bs : List Bound) :
    Grammar.hasTrait (b :: bs) = (Grammar.hasTrait [b] || Grammar.hasTrait bs) := by
  simp [Grammar.hasTrait]

theorem AreBoundsReread.spells {text : String} {texts : List String} {object stalls : Bool}
    (read : AreBoundsReread (text :: texts) object stalls) {after : List Char}
    (ends : EndsName after) :
    ∃ size trees bs, Spells (" + ".intercalate (text :: texts)).toList after size trees ∧
      (∀ rest, Grammar.atBound ⟨false, false⟩ (trees ++ rest) = true ∧
        Tree.atOperator "*" (trees ++ rest) = false) ∧
      ofBounds bs = .ok (text :: texts) ∧ Grammar.hasTrait bs = object ∧
      bs.length = (text :: texts).length ∧
      ∀ depth, size ≤ depth → Grammar.BoundsRead (.level depth) ⟨false, false⟩ trees bs stalls := by
  induction texts generalizing text object stalls with
  | nil =>
    cases read with
    | cons first more =>
      cases more
      obtain ⟨size, trees, b, spelled, opens, same, isTrait, reads⟩ := first after ends
      refine ⟨size, trees, [b], ?_, opens, same, ?_, rfl, fun depth enough => ?_⟩
      · simpa using spelled
      · simpa using isTrait
      · simpa using Grammar.BoundsRead.last (reads depth enough)
  | cons second texts ih =>
    cases read with
    | cons first more =>
      obtain ⟨size', trees', bs, spelled', opens', sames, object, count, reads'⟩ := ih more
      obtain ⟨joint, plus⟩ := Spells.cons_mark (c := '+') (by decide) spelled'.cons_blank
      obtain ⟨size, trees, b, spelled, opens, same, isTrait, reads⟩ :=
        first (' ' :: '+' :: ' ' :: (" + ".intercalate (second :: texts)).toList ++ after)
          (endsName_mark (by decide) _)
      have whole := spelled.append plus.cons_blank
      have text : (" + ".intercalate (text :: second :: texts)).toList =
          text.toList ++ ' ' :: '+' :: ' ' :: (" + ".intercalate (second :: texts)).toList := by
        rw [String.intercalate_cons_cons]
        simp
      rw [text]
      refine ⟨_, _, b :: bs, whole, fun rest => ?_, ofBounds_cons same sames, ?_, by simp [count],
        fun depth enough => ?_⟩
      · rw [List.append_assoc]
        exact opens _
      · rw [hasTrait_cons, isTrait, object]
      · exact .more (reads depth (by omega)) joint (fun rest => (opens' rest).1)
          (reads' depth (by omega))

theorem boundRereads_trait {path : Path} {name : String} {arguments : List TypeRef} {stalls : Bool}
    (written : path.IsWritten) (same : ofPath path = .ok (name, arguments))
    (read : AreReread arguments stalls) :
    BoundRereads (render (.path name arguments)) true stalls := by
  intro after ends
  obtain ⟨-, size, first, more, segments, spelled, -, stands, same, reads⟩ :=
    exists_spells_path written same read ends
  refine ⟨size + 1, _, .trait (.mk path.absolute segments), spelled, fun rest => ?_, ?_, rfl,
    fun depth enough rest ends => ?_⟩
  · cases path.absolute <;> exact ⟨rfl, rfl⟩
  · exact bind_eq_ok.mpr ⟨_, same, rfl⟩
  · obtain ⟨depth, rfl⟩ : ∃ d, depth = d + 1 := ⟨depth - 1, by omega⟩
    rw [List.append_assoc]
    exact Grammar.run_readBound_trait path.absolute _ (reads depth (by omega)) ends

theorem boundRereads_lifetime {name : String} (named : IsName name.toList) :
    BoundRereads ("'" ++ name) false false := by
  intro after ends
  have last := Spells.name_append named (by simpa using ends) (Spells.nil after)
  rw [String.ofList_toList] at last
  have spelled := Spells.cons_quote named (by simpa using ends) last
  refine ⟨2, _, .lifetime name, by simpa using spelled, fun rest => ⟨rfl, rfl⟩, rfl, rfl,
    fun depth enough rest ends => ?_⟩
  obtain ⟨depth, rfl⟩ : ∃ d, depth = d + 1 := ⟨depth - 1, by omega⟩
  exact Grammar.run_readBound_lifetime _ name rest

theorem render_traitObject (bounds : List String) :
    render (.traitObject bounds) = "dyn " ++ " + ".intercalate bounds := rfl

/-- A sum of bounds is read again where plus signs may stand. -/
theorem rereads_traitObject {bounds : List String} {stalls : Bool}
    (read : AreBoundsReread bounds true stalls) :
    Rereads (.traitObject bounds) (decide (1 < bounds.length)) stalls := by
  obtain ⟨text, texts, rfl⟩ : ∃ text texts, bounds = text :: texts := by
    cases bounds with
    | nil => cases read
    | cons text texts => exact ⟨text, texts, rfl⟩
  have written : (render (.traitObject (text :: texts))).toList =
      ['d', 'y', 'n'] ++ ' ' :: (" + ".intercalate (text :: texts)).toList := by
    simp [render_traitObject]
  rw [Rereads, written]
  refine ⟨(Visible.name isName_dyn).append _, fun after ends => ?_⟩
  obtain ⟨size, trees, bs, spelled, opens, same, object, count, reads⟩ := read.spells ends
  have whole := Spells.name_append isName_dyn (endsName_mark (c := ' ') (by decide) _)
    spelled.cons_blank
  refine ⟨_, _, .traitObject true bs false, whole, by simp [BeginsType], ?_,
    fun depth enough plus rest ends => ?_⟩
  · exact bind_eq_ok.mpr ⟨_, same, rfl⟩
  · obtain ⟨depth, rfl⟩ : ∃ d, depth = d + 1 := ⟨depth - 1, by omega⟩
    have given := (reads depth (by omega)).gives plus ends
    rw [count] at given
    have dispatched := Grammar.run_readType_dyn (g := .level depth) plus (opens rest).2
    exact dispatched ▸ (Grammar.gives_objectBounds object given).map fun r =>
      TypeExpr.traitObject true r.1 r.2

end Companion.TypeRef

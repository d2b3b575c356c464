import Companion.Proofs.Code.Reading

/-! What the grammar reads where a type of each form is written. -/

set_option autoImplicit false

namespace Companion.Code

namespace Grammar

variable {g : Grammar} {trees rest : List Tree} {segments : List Segment} {stalls : Bool}

@[simp]
theorem level_type (depth : Nat) : (level (depth + 1)).type = (level depth).readType := rfl

/-! ### Paths -/

theorem not_atBuiltin (read : SegmentsRead g trees segments stalls) (ends : EndsPath rest) :
    atBuiltin (trees ++ rest) = false := by
  have hash : ∀ ts, EndsPath ts → Tree.atOperator "#" ts = false :=
    fun ts ends => ends.not_atMarks (by decide) []
  cases read with
  | last read =>
    cases read with
    | plain => simp [atBuiltin, Tree.skip, hash rest ends]
    | generic => simp [atBuiltin, Tree.skip, Tree.atOperator, Tree.atMarks]
  | more => simp [atBuiltin, Tree.skip, Tree.atOperator, Tree.atMarks]

theorem run_quantifier {ts : List Tree} (absent : Tree.atWord "for" ts = false) :
    (g.quantifier).run ts = some (false, ts) := by
  simp [quantifier, absent]

theorem run_pathType (absolute plus : Bool) (read : SegmentsRead g trees segments stalls)
    (ends : EndsType rest) :
    (g.pathType plus false).run (colons absolute ++ (trees ++ rest)) =
      if stalls then none else some (.path false (.mk absolute segments), rest) := by
  have angle : Tree.atOperator "<" (colons absolute ++ (trees ++ rest)) = false := by
    cases absolute with
    | false =>
      obtain ⟨name, more, -, rfl⟩ := read.exists_ident
      rfl
    | true => rfl
  have call : Tree.atOperator "!" rest = false := ends.1.not_atMarks (by decide) []
  have path := run_typePath absolute read ends.1
  cases stalls <;> simp [pathType, qualifiedPath, angle, path, call, ends.2]

theorem run_readType_of_path {ts : List Tree} (plus : Bool)
    (quantified : Tree.atWord "for" ts = false) (group : Tree.atGroup .parenthesis ts = false)
    (function : (Tree.atWord "fn" ts || Tree.atWord "unsafe" ts || Tree.atWord "extern" ts) = false)
    (builtin : atBuiltin ts = false) (path : atPathType ts = true) :
    (g.readType plus).run ts = (g.pathType plus false).run ts := by
  rw [atPathType] at path
  simp only [readType, StateT.run_bind, run_quantifier quantified, Option.bind_eq_bind,
    Option.bind_some, Bool.false_eq_true, if_false, Reader.run_rest, group, function, builtin, path,
    if_true]

theorem run_readType_path (absolute plus : Bool) (read : SegmentsRead g trees segments stalls)
    (begins : Tree.atWord "try" (colons absolute ++ trees) = false) (ends : EndsType rest) :
    (g.readType plus).run (colons absolute ++ (trees ++ rest)) =
      if stalls then none else some (.path false (.mk absolute segments), rest) := by
  rw [← run_pathType absolute plus read ends]
  have builtin := not_atBuiltin read ends.1
  cases absolute with
  | true => exact run_readType_of_path plus rfl rfl rfl rfl rfl
  | false =>
    obtain ⟨name, more, stands, rfl⟩ := read.exists_ident
    rcases stands with keyword | rfl | free
    · -- `try` stands in paths, but no type starts with it
      simp only [pathKeywords, List.mem_cons, List.not_mem_nil, or_false] at keyword
      rcases keyword with rfl | rfl | rfl | rfl
      · exact run_readType_of_path plus rfl rfl rfl builtin rfl
      · exact run_readType_of_path plus rfl rfl rfl builtin rfl
      · exact run_readType_of_path plus rfl rfl rfl builtin rfl
      · cases begins
    · exact run_readType_of_path plus rfl rfl rfl builtin rfl
    · have plain {word : String}
          (reserved : word ∈ Tree.reserved ∧ word ∉ "Self" :: pathKeywords) :=
        not_atWord_of_stands (.inr (.inr free)) reserved (more ++ rest)
      have ident : Tree.atIdent (.ident name :: (more ++ rest)) = true := by
        simpa [Tree.atIdent] using free
      refine run_readType_of_path plus (plain (by decide)) rfl ?_ builtin ?_
      · rw [colons]
        simp [@plain "fn" (by decide), @plain "unsafe" (by decide), @plain "extern" (by decide)]
      · simp [colons, atPathType, ident]

/-! ### Bounds -/

theorem run_traitPath (absolute : Bool) (read : SegmentsRead g trees segments stalls)
    (ends : EndsPath rest) :
    (g.traitPath).run (colons absolute ++ (trees ++ rest)) =
      if stalls then none else some (.mk absolute segments, rest) := by
  have path := run_typePath absolute read ends
  have colons : Tree.atOperator "::" rest = false := ends.not_atMarks (by decide) [':']
  have group : Tree.atGroup .parenthesis rest = false := by
    match rest, ends with
    | [], _ | .punct .. :: _, _ => rfl
  cases stalls <;> simp [traitPath, path, colons, group]

theorem run_readBound_trait (absolute : Bool) (forms : BoundForms)
    (read : SegmentsRead g trees segments stalls) (ends : EndsPath rest) :
    (g.readBound forms).run (colons absolute ++ (trees ++ rest)) =
      if stalls then none else some (.trait (.mk absolute segments), rest) := by
  have path := run_traitPath absolute read ends
  generalize whole : colons absolute ++ (trees ++ rest) = ts at path ⊢
  have starts : (Tree.atLifetime ts = false ∧ Tree.atGroup .parenthesis ts = false ∧
      Tree.atGroup .bracket ts = false ∧ Tree.atOperator "?" ts = false) ∧
      Tree.atWord "use" ts = false ∧ Tree.atWord "for" ts = false ∧
      Tree.atWord "const" ts = false := by
    subst whole
    cases absolute with
    | true => exact ⟨⟨rfl, rfl, rfl, rfl⟩, rfl, rfl, rfl⟩
    | false =>
      obtain ⟨name, more, stands, rfl⟩ := read.exists_ident
      exact ⟨⟨rfl, rfl, rfl, rfl⟩, not_atWord_of_stands stands (by decide) _,
        not_atWord_of_stands stands (by decide) _, not_atWord_of_stands stands (by decide) _⟩
  obtain ⟨⟨lifetime, parenthesis, bracket, relaxed⟩, use, for', const⟩ := starts
  cases stalls <;> simp [readBound, traitBound, lifetime, parenthesis, bracket, use, const,
    run_quantifier for', Reader.run_operator?_absent relaxed, path]

theorem run_readBound_lifetime (forms : BoundForms) (name : String) (rest : List Tree) :
    (g.readBound forms).run (.punct '\'' true :: .ident name :: rest) =
      some (.lifetime name, rest) := by
  simp [readBound, Tree.atLifetime]

/-! ### Sums of bounds -/

/-- One bound, and the plus sign after it if there may be one. -/
def boundStep (g : Grammar) (plus : Bool) (forms : BoundForms) :
    List Bound × Bool → Reader (Bool × List Bound × Bool) := fun (bounds, _) => do
  let bounds := (← g.bound forms) :: bounds
  if ← Reader.peek fun ts => plus && Tree.atOperator "+" ts then
    Reader.operator "+"
    if ← Reader.peek (atBound forms) then return (true, bounds, false)
    return (false, bounds, true)
  return (false, bounds, false)

theorem bounds_eq (g : Grammar) (plus : Bool) (forms : BoundForms) :
    g.bounds plus forms = (do
      let (bounds, isOpen) ← Reader.loop (boundStep g plus forms) ([], false)
      return (bounds.reverse, isOpen)) := rfl

section

variable {forms : BoundForms} {ts left : List Tree} {b : Bound} (plus : Bool)
  (before : List Bound × Bool)

theorem boundStep_failed (failed : (g.bound forms).run ts = none) :
    (boundStep g plus forms before).run ts = none := by
  simp [boundStep, failed]

theorem boundStep_last (read : (g.bound forms).run ts = some (b, left))
    (ends : (plus && Tree.atOperator "+" left) = false) :
    (boundStep g plus forms before).run ts = some ((false, b :: before.1, false), left) := by
  simp [boundStep, read, ends, -Bool.and_eq_true]

theorem boundStep_more {joint : Bool}
    (read : (g.bound forms).run ts = some (b, .punct '+' joint :: left))
    (opens : atBound forms left = true) :
    (boundStep g true forms before).run ts = some ((true, b :: before.1, false), left) := by
  simp [boundStep, read, opens, Tree.atOperator, Tree.atMarks]

end

/-- A bound in front of what ends it. -/
def ReadsBound (g : Grammar) (forms : BoundForms) (trees : List Tree) (b : Bound) (stalls : Bool) :
    Prop :=
  ∀ rest, EndsPath rest →
    (g.bound forms).run (trees ++ rest) = if stalls then none else some (b, rest)

/-- Bounds with plus signs between them. -/
inductive BoundsRead (g : Grammar) (forms : BoundForms) : List Tree → List Bound → Bool → Prop
  | last {trees : List Tree} {b : Bound} {stalls : Bool}
      (reads : ReadsBound g forms trees b stalls) :
      BoundsRead g forms trees [b] stalls
  | more {trees others : List Tree} {b : Bound} {bs : List Bound} {stalls stalls' : Bool}
      (reads : ReadsBound g forms trees b stalls) (joint : Bool)
      (opens : ∀ rest, atBound forms (others ++ rest) = true)
      (more : BoundsRead g forms others bs stalls') :
      BoundsRead g forms (trees ++ .punct '+' joint :: others) (b :: bs) (stalls || stalls')

variable {forms : BoundForms} {bs : List Bound}

theorem BoundsRead.iterates (read : BoundsRead g forms trees bs stalls) (ends : EndsType rest)
    (before : List Bound × Bool) :
    Reader.Iterates (boundStep g true forms) before (trees ++ rest)
      (if stalls then none else some ((bs.reverse ++ before.1, false), rest)) := by
  induction read generalizing before with
  | @last trees b stalls reads =>
    have run := reads rest ends.1
    cases stalls with
    | false => exact .stop (boundStep_last true before run ends.2)
    | true => exact .fail (boundStep_failed true before run)
  | @more trees others b bs stalls stalls' reads joint opens more ih =>
    have run := reads (.punct '+' joint :: (others ++ rest)) (by simp [EndsPath])
    rw [List.append_assoc, List.cons_append]
    cases stalls with
    | false =>
      refine .more (boundStep_more before run (opens rest)) (by simp; omega) ?_
      simpa using ih (b :: before.1, false)
    | true => exact .fail (boundStep_failed true before run)

theorem BoundsRead.length_pos (read : BoundsRead g forms trees bs stalls) : 0 < bs.length := by
  cases read <;> simp

/-- Without plus signs only the first of the bounds is read. -/
theorem BoundsRead.gives (read : BoundsRead g forms trees bs stalls) (plus : Bool)
    (ends : EndsType rest) :
    Gives (bs, false) rest (stalls || (!plus && decide (1 < bs.length)))
      ((g.bounds plus forms).run (trees ++ rest)) := by
  rw [bounds_eq]
  cases plus with
  | true =>
    have looped := Reader.run_loop (read.iterates ends ([], false))
    cases stalls with
    | false => simpa [looped] using Gives.read
    | true => simpa [looped] using Gives.failed
  | false =>
    cases read with
    | last reads =>
      have run := reads rest ends.1
      cases stalls with
      | false =>
        have looped := Reader.run_loop (.stop (boundStep_last false ([], false) run rfl))
        simpa [looped] using Gives.read
      | true =>
        have looped := Reader.run_loop (.fail (boundStep_failed false ([], false) run))
        simpa [looped] using Gives.failed
    | @more trees others b bs stalls stalls' reads joint opens more =>
      -- the first bound is read, and the plus sign after it is left
      have sum : (!false && decide (1 < (b :: bs).length)) = true := by
        simpa using more.length_pos
      rw [sum, Bool.or_true, List.append_assoc, List.cons_append]
      have run := reads (.punct '+' joint :: (others ++ rest)) (by simp [EndsPath])
      cases stalls with
      | false =>
        have looped := Reader.run_loop (.stop (boundStep_last false ([], false) run rfl))
        simpa [looped] using Gives.stalled rfl
      | true =>
        have looped := Reader.run_loop (.fail (boundStep_failed false ([], false) run))
        simpa [looped] using Gives.failed

/-- Whether a trait is among the bounds. -/
def hasTrait (bounds : List Bound) : Bool := bounds.any fun | .trait _ => true | _ => false

theorem run_objectBounds (plus : Bool) (ts : List Tree) :
    (g.objectBounds plus).run ts = ((g.bounds plus ⟨false, false⟩).run ts).bind fun out =>
      if hasTrait out.1.1 then some out else none := by
  rw [objectBounds, StateT.run_bind]
  congr
  funext out
  change (do
    guard (hasTrait out.1.1)
    return (out.1.1, out.1.2) : Reader _).run out.2 = _
  cases found : hasTrait out.1.1 <;> simp [guard]

theorem gives_objectBounds {plus : Bool} {ts : List Tree} (object : hasTrait bs = true)
    (given : Gives (bs, false) rest stalls ((g.bounds plus ⟨false, false⟩).run ts)) :
    Gives (bs, false) rest stalls ((g.objectBounds plus).run ts) := by
  rw [run_objectBounds]
  generalize (g.bounds plus ⟨false, false⟩).run ts = result at given ⊢
  cases given with
  | read => simpa [object] using Gives.read
  | @stalled r left atPlus =>
    cases found : hasTrait r.1 with
    | false => simpa [found] using Gives.failed
    | true => simpa [found] using Gives.stalled atPlus
  | failed => exact .failed

theorem run_readType_dyn (plus : Bool) {ts : List Tree} (starred : Tree.atOperator "*" ts = false) :
    (g.readType plus).run (.ident "dyn" :: ts) =
      ((g.objectBounds plus).run ts).map fun (r, left) => (.traitObject true r.1 r.2, left) := by
  have dispatched : (g.readType plus).run (.ident "dyn" :: ts) = (do
      let starred ← Reader.operator? "*"
      let (bounds, isOpen) ← g.objectBounds plus
      if starred then return .other (← Reader.endedInBrace (.ident "dyn" :: ts))
      return .traitObject true bounds isOpen : Reader TypeExpr).run ts := rfl
  rw [dispatched, StateT.run_bind, Reader.run_operator?_absent starred]
  cases found : (g.objectBounds plus).run ts <;> simp [found]

/-! ### References -/

def lifetimeTrees : Option String → List Tree
  | some name => [.punct '\'' true, .ident name]
  | none => []

def mutTrees (isMutable : Bool) : List Tree := if isMutable then [.ident "mut"] else []

theorem run_lifetime? {ts : List Tree} (lifetime : Option String)
    (other : Tree.atLifetime ts = false) :
    Reader.lifetime?.run (lifetimeTrees lifetime ++ ts) = some (lifetime, ts) := by
  cases lifetime with
  | none => simp [Reader.lifetime?, lifetimeTrees, other]
  | some name => simp [Reader.lifetime?, lifetimeTrees, Tree.atLifetime]

theorem run_mut? {ts : List Tree} (isMutable : Bool) (begins : BeginsType ts) :
    (Reader.word? "mut").run (mutTrees isMutable ++ ts) = some (isMutable, ts) := by
  cases isMutable with
  | true => rfl
  | false =>
    have absent : Tree.atWord "mut" ts = false := by
      match ts, begins with
      | .ident name :: ts, begins => simp_all [BeginsType, Tree.atWord]
      | .punct .. :: _, _ | .group .. :: _, _ => rfl
    simp [mutTrees, absent]

theorem run_readType_reference {ts : List Tree} (plus joint : Bool) (lifetime : Option String)
    (isMutable : Bool) (begins : BeginsType ts) :
    (g.readType plus).run
        (.punct '&' joint :: (lifetimeTrees lifetime ++ (mutTrees isMutable ++ ts))) =
      ((g.type false).run ts).map fun (e, left) => (.reference lifetime isMutable e, left) := by
  have dispatched (ts : List Tree) : (g.readType plus).run (.punct '&' joint :: ts) = (do
      let lifetime ← Reader.lifetime?
      let isMutable ← Reader.word? "mut"
      return .reference lifetime isMutable (← g.type false) : Reader TypeExpr).run ts := rfl
  have other : Tree.atLifetime (mutTrees isMutable ++ ts) = false := by
    cases isMutable with
    | true => rfl
    | false => exact begins.not_atLifetime
  rw [dispatched]
  simp [run_lifetime? lifetime other, run_mut? isMutable begins, -Reader.run_word?]

theorem gives_reference {ts : List Tree} {e : TypeExpr} (plus joint : Bool)
    (lifetime : Option String) (isMutable : Bool) (begins : BeginsType ts)
    (given : Gives e rest stalls ((g.type false).run ts)) :
    Gives (.reference lifetime isMutable e) rest stalls ((g.readType plus).run
      (.punct '&' joint :: (lifetimeTrees lifetime ++ (mutTrees isMutable ++ ts)))) := by
  rw [run_readType_reference plus joint lifetime isMutable begins]
  exact given.map _

/-! ### Groups -/

theorem run_within_group {α : Type} {delimiter : Delimiter} {body : Reader α} :
    (Reader.within delimiter body).run (.group delimiter trees :: rest) =
      (Reader.all? body trees).map (·, rest) := by
  rcases read : body.run trees with _ | ⟨b, _ | ⟨tree, more⟩⟩ <;>
    simp [Reader.within, guard, read, Reader.all?]

theorem run_readType_bracket (plus : Bool) (body rest : List Tree) :
    (g.readType plus).run (.group .bracket body :: rest) =
      (Reader.all? g.insideBrackets body).map (·, rest) := by
  have dispatched : (g.readType plus).run (.group .bracket body :: rest) =
      (Reader.within .bracket g.insideBrackets).run (.group .bracket body :: rest) := rfl
  rw [dispatched, run_within_group]

theorem all?_of_plus {α : Type} {reader : Reader α} {a : α} {ts left : List Tree}
    (read : reader.run ts = some (a, left)) (plus : Tree.atOperator "+" left = true) :
    Reader.all? reader ts = none := by
  match left, plus with
  | .punct mark joint :: left, _ => simp [Reader.all?, read]

theorem run_insideBrackets {ts left : List Tree} {e : TypeExpr}
    (read : (g.type true).run ts = some (e, left)) (ends : Tree.atOperator ";" left = false) :
    (g.insideBrackets).run ts = some (.slice e, left) := by
  simp [insideBrackets, read, Reader.run_operator?_absent ends]

theorem insideBrackets_failed {ts : List Tree} (failed : (g.type true).run ts = none) :
    (g.insideBrackets).run ts = none := by
  simp [insideBrackets, failed]

theorem run_readType_slice {e : TypeExpr} (plus : Bool)
    (reads : ∀ rest, EndsType rest → Gives e rest stalls ((g.type true).run (trees ++ rest)))
    (rest : List Tree) : (g.readType plus).run (.group .bracket trees :: rest) =
      if stalls then none else some (.slice e, rest) := by
  have given := reads [] ⟨trivial, rfl⟩
  rw [List.append_nil] at given
  rw [run_readType_bracket]
  generalize found : (g.type true).run trees = read at given
  cases given with
  | read => simp [Reader.all?, run_insideBrackets found rfl]
  | stalled plus =>
    have ends : Tree.atOperator ";" _ = false := not_atMark_of_plus plus (by decide)
    simp [all?_of_plus (run_insideBrackets found ends) plus]
  | failed => simp [Reader.all?, insideBrackets_failed found]

theorem run_readType_array {e : TypeExpr} {text : String} {n : Expr} (plus joint : Bool)
    (reads : ∀ rest, EndsType rest → Gives e rest stalls ((g.type true).run (trees ++ rest)))
    (counted : (g.expr true).run [.literal text] = some (n, [])) (literal : n.kind = .literal text)
    (rest : List Tree) :
    (g.readType plus).run (.group .bracket (trees ++ [.punct ';' joint, .literal text]) :: rest) =
      if stalls then none else some (.array e (Number.integerDigits? text), rest) := by
  have given := reads [.punct ';' joint, .literal text] ⟨by simp [EndsPath], rfl⟩
  rw [run_readType_bracket]
  generalize found : (g.type true).run _ = read at given
  cases given with
  | read =>
    have inside : (g.insideBrackets).run (trees ++ [.punct ';' joint, .literal text]) =
        some (.array e (Number.integerDigits? text), []) := by
      simp [insideBrackets, found, counted, literal]
    simp [Reader.all?, inside]
  | stalled plus =>
    have ends : Tree.atOperator ";" _ = false := not_atMark_of_plus plus (by decide)
    simp [all?_of_plus (run_insideBrackets found ends) plus]
  | failed => simp [Reader.all?, insideBrackets_failed found]

/-! ### Tuples -/

theorem run_insideParentheses {ts left : List Tree} {e : TypeExpr} (begins : BeginsType ts)
    (read : (g.type true).run ts = some (e, left)) :
    (g.insideParentheses).run ts = (do
      if ← Reader.peek (Tree.atOperator ",") then
        Reader.operator ","
        return .tuple (e :: (← Reader.separated "," (g.type true)))
      return .parenthesized e : Reader TypeExpr).run left := by
  simp [insideParentheses, begins.not_isEmpty, begins.not_atLifetime, begins.not_atQuestion, read]

theorem insideParentheses_failed {ts : List Tree} (begins : BeginsType ts)
    (failed : (g.type true).run ts = none) : (g.insideParentheses).run ts = none := by
  simp [insideParentheses, begins.not_isEmpty, begins.not_atLifetime, begins.not_atQuestion, failed]

theorem run_readType_unit (plus : Bool) (rest : List Tree) :
    (g.readType plus).run (.group .parenthesis [] :: rest) = some (.tuple [], rest) := rfl

/-- Whatever else may stand in parentheses, a tuple is what it is. -/
theorem run_readType_parenthesis {body : List Tree} {es : Option (List TypeExpr)} (plus : Bool)
    (inside : Reader.all? g.insideParentheses body = es.map .tuple) (rest : List Tree) :
    (g.readType plus).run (.group .parenthesis body :: rest) = es.map (.tuple ·, rest) := by
  have dispatched : (g.readType plus).run (.group .parenthesis body :: rest) =
      (g.parenthesizedType plus).run (.group .parenthesis body :: rest) := rfl
  rw [dispatched, parenthesizedType, StateT.run_bind, run_within_group, inside]
  cases es <;> rfl

theorem run_readType_tuple {trees others : List Tree} {e : TypeExpr} {es : List TypeExpr}
    {stalls stalls' : Bool} (plus joint : Bool) (begins : BeginsType trees)
    (reads : ∀ rest, EndsType rest → Gives e rest stalls ((g.type true).run (trees ++ rest)))
    (more : (Reader.separated "," (g.type true)).run others =
      if stalls' then none else some (es, []))
    (rest : List Tree) :
    (g.readType plus).run (.group .parenthesis (trees ++ .punct ',' joint :: others) :: rest) =
      if stalls || stalls' then none else some (.tuple (e :: es), rest) := by
  have given := reads (.punct ',' joint :: others) (endsItem_comma joint others).1
  have opens := begins.append (.punct ',' joint :: others)
  have inside : Reader.all? g.insideParentheses (trees ++ .punct ',' joint :: others) =
      (if stalls || stalls' then none else some (e :: es)).map .tuple := by
    generalize found : (g.type true).run _ = read at given
    cases given with
    | read =>
      rw [Reader.all?, run_insideParentheses opens found]
      cases stalls' <;> simp [Tree.atOperator, Tree.atMarks, more]
    | @stalled e' left atPlus =>
      have comma : Tree.atOperator "," left = false := not_atMark_of_plus atPlus (by decide)
      have stuck : (g.insideParentheses).run (trees ++ .punct ',' joint :: others) =
          some (.parenthesized e', left) := by
        rw [run_insideParentheses opens found]
        simp [comma]
      exact all?_of_plus stuck atPlus
    | failed =>
      rw [Reader.all?, insideParentheses_failed opens found]
      rfl
  rw [run_readType_parenthesis plus inside rest]
  cases stalls || stalls' <;> rfl

/-! ### Lengths -/

theorem run_readExpr_literal (text : String) :
    (g.readExpr true).run [.literal text] = some (⟨.literal text, false⟩, []) := rfl

end Grammar

/-! ### Whole texts -/

theorem Closes.whole {tokens : List Token} {trees : List Tree} (closes : Closes tokens trees) :
    Tree.ofTokens tokens = some trees := by
  have closed := closes [] [] []
  rw [List.append_nil] at closed
  simp [Tree.ofTokens, closed, Tree.closeGroups]

theorem parse?_of_spells {α : Type} (production : Grammar → Reader α) {text : String} {size : Nat}
    {trees : List Tree} (spelled : Spells text.toList [] size trees)
    (visible : Visible text.toList) :
    parse? production text = Reader.all? (production (.level (3 * size + 8))) trees := by
  obtain ⟨tokens, rfl, lexed, closed⟩ := spelled
  simp [parse?, lexed.whole visible, closed.whole, Grammar.covering]

end Companion.Code

import Companion.Proofs.Code.AlikeForms
import Companion.Proofs.Code.Reading

/-! Statements, closures and calls around an expression.

What is read of them is what is read of the expression in their midst: a name, its type and the
marks around it are read in one way only.
-/

set_option autoImplicit false

namespace Companion.Code

namespace Grammar

variable {g : Grammar} {name : String} {ts us : List Tree} {e : Expr}

/-! ### Names -/

theorem not_atWord_of_free (free : name ∉ Tree.reserved) (word : String)
    (reserved : word ∈ Tree.reserved) (ts : List Tree) :
    Tree.atWord word (.ident name :: ts) = false := by
  refine beq_false_of_ne ?_
  rintro rfl
  exact free reserved

theorem atIdent_of_free (free : name ∉ Tree.reserved) (ts : List Tree) :
    Tree.atIdent (.ident name :: ts) = true := by simpa [Tree.atIdent] using free

theorem not_atLiteral_of_free (free : name ∉ Tree.reserved) (ts : List Tree) :
    Tree.atLiteral (.ident name :: ts) = false := by
  have yes := not_atWord_of_free free "true" (by decide) ts
  have no := not_atWord_of_free free "false" (by decide) ts
  simp only [Tree.atWord] at yes no
  simp [Tree.atLiteral, yes, no]

theorem run_outerAttributes (ts : List Tree) (absent : Tree.atOperator "#" ts = false) :
    (g.outerAttributes).run ts = some (0, ts) := by
  refine Reader.run_loop (.stop ?_)
  simp [Reader.run_operator?_absent absent]

/-- A name in front of a single colon is a pattern. -/
theorem run_readPattern_name (free : name ∉ Tree.reserved) (ts : List Tree) :
    (g.readPattern).run (.ident name :: .punct ':' false :: ts) =
      some (.other, .punct ':' false :: ts) := by
  have plain (word : String) (reserved : word ∈ Tree.reserved) :=
    not_atWord_of_free free word reserved (.punct ':' false :: ts)
  have path : atPathPattern (.ident name :: .punct ':' false :: ts) = false := by
    simp [atPathPattern, plain "self" (by decide), plain "Self" (by decide),
      plain "super" (by decide), plain "crate" (by decide), Tree.skip, Tree.atOperator,
      Tree.atMarks, Tree.atGroup]
  simp [readPattern, path, plain "_" (by decide), plain "box" (by decide),
    plain "const" (by decide), plain "ref" (by decide), plain "mut" (by decide),
    plain "self" (by decide), not_atLiteral_of_free free, atIdent_of_free free,
    Reader.run_ident _ free, Reader.run_operator?, Tree.atOperator, Tree.atMarks]

/-! ### Operands -/

/-- What may come next where a name is an operand by itself: nothing, a call, a point or a
semicolon. -/
def EndsOperand : List Tree → Prop
  | [] => True
  | .group delimiter _ :: _ => delimiter = .parenthesis
  | .punct mark joint :: _ => mark ∈ ['.', ';'] ∧ joint = false
  | _ => False

theorem EndsOperand.not_atOperator (ends : EndsOperand ts) {text : String} {c : Char}
    {marks : List Char} (written : text.toList = c :: marks) (other : c ∉ ['.', ';']) :
    Tree.atOperator text ts = false := by
  rw [Tree.atOperator, written]
  cases ts with
  | nil => cases marks <;> rfl
  | cons tree ts =>
    cases tree with
    | punct mark joint =>
      have different : mark ≠ c := fun same => other (same ▸ ends.1)
      cases marks <;> simp [Tree.atMarks, different]
    | _ => cases marks <;> rfl

theorem run_typePath_name (free : name ∉ Tree.reserved) (ends : EndsOperand ts) :
    (g.typePath true).run (.ident name :: ts) = some (.mk false [.mk name .none], ts) := by
  have plain (word : String) (reserved : word ∈ Tree.reserved) :=
    not_atWord_of_free free word reserved ts
  have colons : Tree.atOperator "::" ts = false := ends.not_atOperator rfl (by decide)
  have first : (segment true (angled (argument g))).run (.ident name :: ts) =
      some (.mk name .none, ts) := by
    simp [segment, plain "super" (by decide), plain "self" (by decide),
      plain "crate" (by decide), plain "try" (by decide), plain "Self" (by decide),
      Reader.run_ident _ free, colons]
  have more : (moreSegments (segment true (angled (argument g))) [.mk name .none]).run ts =
      some ([.mk name .none], ts) := by
    have step : Reader.Iterates (moreStep (segment true (angled (argument g))))
        [Segment.mk name .none] ts (some ([.mk name .none], ts)) :=
      .stop (by simp [moreStep, colons])
    rw [moreSegments_eq]
    simp [Reader.run_loop step]
  simp [typePath, Reader.run_operator?, Tree.atOperator, Tree.atMarks, first, more]

theorem run_atom_name (free : name ∉ Tree.reserved) (ends : EndsOperand ts) (struct : Bool) :
    (g.atom struct).run (.ident name :: ts) = some (.plain, ts) := by
  have plain (word : String) (reserved : word ∈ Tree.reserved) :=
    not_atWord_of_free free word reserved ts
  have hash : Tree.atOperator "#" ts = false := ends.not_atOperator rfl (by decide)
  have call : Tree.atOperator "!" ts = false := ends.not_atOperator rfl (by decide)
  have brace : Tree.atGroup .brace ts = false := by
    match ts, ends with
    | [], _ | .punct .. :: _, _ => rfl
    | .group .parenthesis _ :: _, rfl => rfl
  have closure : atClosure (.ident name :: ts) = false := by
    simp [atClosure, atQuantifier, plain "move" (by decide), plain "for" (by decide),
      plain "const" (by decide), plain "static" (by decide), plain "async" (by decide),
      Tree.atOperator, Tree.atMarks]
  have path : atPathExpr (.ident name :: ts) = true := by
    simp [atPathExpr, Tree.atPath, atIdent_of_free free]
  have angle : Tree.atOperator "<" (.ident name :: ts) = false := rfl
  have read := run_typePath_name (g := g) free ends
  simp only [atom, StateT.run_bind, Reader.run_rest, Option.bind_eq_bind, Option.bind_some,
    not_atLiteral_of_free free, atAsyncBlock, plain "async" (by decide),
    plain "try" (by decide), Bool.false_and, Bool.false_eq_true, if_false, closure,
    atBuiltin, Tree.skip, hash, Bool.and_false, path, if_true, pathExpr, qualifiedPath]
  simp [angle, read, call, brace]

/-! ### What comes behind an operand -/

/-- One call, index, field or question mark. -/
def trailerStep (g : Grammar) (e : Expr) : Reader (Bool × Expr) := do
  let ts ← Reader.rest
  if Tree.atGroup .parenthesis ts then
    g.arguments
    return (true, .plain)
  else if atPoint ts && e.kind ≠ .range then
    Reader.operator "."
    g.member
    return (true, .plain)
  else if Tree.atGroup .bracket ts then
    let _ ← Reader.within .bracket (g.expr true)
    return (true, .plain)
  else if Tree.atOperator "?" ts && e.kind ≠ .range then
    Reader.operator "?"
    return (true, .plain)
  else return (false, e)

/-- Arguments of a call: one expression and nothing behind it. -/
theorem run_arguments (written : ts ≠ []) (read : (g.expr true).run ts = some (e, []))
    (us : List Tree) : (g.arguments).run (.group .parenthesis ts :: us) = some ((), us) := by
  have listed : (Reader.separated "," (g.expr true)).run ts = some ([e], []) := by
    have step : Reader.Iterates (Reader.listStep List.isEmpty (g.expr true)) [] ts
        (some ([e], [])) := .stop (by simp [Reader.listStep, written, read])
    rw [Reader.separated_eq, Reader.listed]
    simp [Reader.run_loop step]
  have inside : (Reader.within .parenthesis (Reader.separated "," (g.expr true))).run
      (.group .parenthesis ts :: us) = some ([e], us) := Reader.run_within.mpr ⟨ts, rfl, listed⟩
  simp [arguments, inside]

theorem run_trailerStep_call (written : ts ≠ []) (read : (g.expr true).run ts = some (e, []))
    (us : List Tree) (before : Expr) :
    (g.trailerStep before).run (.group .parenthesis ts :: us) = some ((true, .plain), us) := by
  simp [trailerStep, Tree.atGroup, run_arguments written read us]

/-- A call of a method with one argument. -/
theorem run_trailerStep_method (free : name ∉ Tree.reserved) (written : ts ≠ [])
    (read : (g.expr true).run ts = some (e, [])) (us : List Tree) :
    (g.trailerStep .plain).run (.punct '.' false :: .ident name :: .group .parenthesis ts :: us) =
      some ((true, .plain), us) := by
  have await := not_atWord_of_free free "await" (by decide) (.group .parenthesis ts :: us)
  have named : (fieldName).run (.ident name :: .group .parenthesis ts :: us) =
      some (true, .group .parenthesis ts :: us) := by
    simp [fieldName, atIdent_of_free free, Reader.run_ident _ free]
  have colons : Tree.atOperator "::" (.group .parenthesis ts :: us) = false := rfl
  have member : (g.member).run (.ident name :: .group .parenthesis ts :: us) = some ((), us) := by
    simp [member, await, named, Reader.run_operator?_absent colons, Tree.atGroup,
      run_arguments written read us]
  simp [trailerStep, Tree.atGroup, atPoint, Tree.atOperator, Tree.atMarks, Expr.plain, member]

section

variable {stopped : Bool} {left : List Tree}

theorem run_trailerStep_stop (ends : Placed stopped [] left) (e : Expr) :
    (g.trailerStep e).run left = some ((false, e), left) := by
  cases ends <;> rfl

theorem run_readOperators_stop (ends : Placed stopped [] left) (struct : Bool)
    (base : Precedence) (e : Expr) : (g.readOperators struct base e).run left = some (e, left) := by
  refine Reader.run_loop (.stop ?_)
  have other : binaryOperator? left = none ∧ atAssign left = false ∧
      Tree.atOperator ".." left = false ∧ Tree.atWord "as" left = false := by
    cases ends with
    | alone => decide
    | stop joint => cases joint <;> decide
  by_cases range : e.kind = .range <;> simp [operatorStep, range, other]

/-- An operand by itself is an expression. -/
theorem run_readExpr_of_readUnary {struct : Bool}
    (read : (g.readUnary struct).run ts = some (e, left)) (ends : Placed stopped [] left) :
    (g.readExpr struct).run ts = some (e, left) := by
  simp [readExpr, read, run_readOperators_stop ends]

end

/-- What stands in front of an operand. -/
def prefixes : List String := ["#", "&", "*", "!", "-"]

/-- An operand with nothing in front of it. -/
theorem run_readUnary_of_atom {struct : Bool} {first last : Expr} {left : List Tree}
    (bare : (prefixes.any (Tree.atOperator · ts)) = false)
    (atom : (g.atom struct).run ts = some (first, us))
    (trailers : (g.readTrailers first).run us = some (last, left)) :
    (g.readUnary struct).run ts = some (last, left) := by
  simp only [prefixes, List.any_cons, List.any_nil, Bool.or_false, Bool.or_eq_false_iff] at bare
  simp [readUnary, run_outerAttributes ts bare.1, bare, atom, trailers]

/-- A call of a name with one argument. -/
theorem run_call (free : name ∉ Tree.reserved) (written : ts ≠ [])
    (read : (g.expr true).run ts = some (e, [])) (struct : Bool) :
    (g.readExpr struct).run [.ident name, .group .parenthesis ts] = some (.plain, []) := by
  have trailers : (g.readTrailers .plain).run [.group .parenthesis ts] = some (.plain, []) :=
    Reader.run_loop (.more (run_trailerStep_call written read [] .plain) (by simp)
      (.stop (run_trailerStep_stop (.alone []) .plain)))
  have call : EndsOperand [.group .parenthesis ts] := rfl
  exact run_readExpr_of_readUnary
    (run_readUnary_of_atom rfl (run_atom_name free call struct) trailers) (.alone [])

/-- A call of a method of a name with one argument. -/
theorem run_method {method : String} {stopped : Bool} {left : List Tree}
    (free : name ∉ Tree.reserved) (free' : method ∉ Tree.reserved) (written : ts ≠ [])
    (read : (g.expr true).run ts = some (e, [])) (ends : Placed stopped [] left) (struct : Bool) :
    (g.readExpr struct).run
      (.ident name :: .punct '.' false :: .ident method :: .group .parenthesis ts :: left) =
        some (.plain, left) := by
  have trailers : (g.readTrailers .plain).run
      (.punct '.' false :: .ident method :: .group .parenthesis ts :: left) = some (.plain, left) :=
    Reader.run_loop (.more (run_trailerStep_method free' written read left)
      (by simp only [List.length_cons]; omega) (.stop (run_trailerStep_stop ends .plain)))
  have point : EndsOperand (.punct '.' false :: .ident method :: .group .parenthesis ts :: left) :=
    ⟨List.mem_cons_self, rfl⟩
  exact run_readExpr_of_readUnary
    (run_readUnary_of_atom rfl (run_atom_name free point struct) trailers) ends

/-- A closure without parameters. -/
theorem run_closure {struct : Bool} {left : List Tree} (arrow : Tree.atOperator "->" ts = false)
    (read : (g.expr struct).run ts = some (e, left)) :
    (g.closure struct).run (.punct '|' true :: .punct '|' false :: ts) =
      some (e.endingAs, left) := by
  have quantifier : (g.quantifier).run (.punct '|' true :: .punct '|' false :: ts) =
      some (false, .punct '|' true :: .punct '|' false :: ts) := run_quantifier rfl
  have word (text : String) : (Reader.word? text).run (.punct '|' true :: .punct '|' false :: ts) =
      some (false, .punct '|' true :: .punct '|' false :: ts) := by
    rw [Reader.run_word?]
    rfl
  have bar : Tree.atOperator "|" (.punct '|' false :: ts) = true := rfl
  have opens (joint : Bool) (ts : List Tree) :
      (Reader.operator "|").run (.punct '|' joint :: ts) = some ((), ts) :=
    Reader.run_operator_mark joint ts rfl
  have parameters : (Reader.repeatWhile (do
      if ← Reader.peek (Tree.atOperator "|") then return false
      closureInput g
      if ← Reader.peek (Tree.atOperator "|") then return false
      Reader.operator ","
      return true)).run (.punct '|' false :: ts) = some ((), .punct '|' false :: ts) :=
    Reader.run_loop (.stop (by simp [bar]))
  simp only [closure, StateT.run_bind, quantifier, word, Option.bind_eq_bind, Option.bind_some,
    opens, parameters, Reader.run_operator?_absent arrow, Bool.false_eq_true, if_false, read]
  rfl

/-- No expression begins with an arrow. -/
theorem not_atOperator_arrow {depth : Nat} {struct : Bool} {left : List Tree}
    (read : ((level depth).expr struct).run ts = some (e, left)) :
    Tree.atOperator "->" ts = false := by
  rw [← Bool.not_eq_true]
  intro arrow
  obtain ⟨joint, us, rfl⟩ : ∃ joint us, ts = .punct '-' true :: .punct '>' joint :: us := by
    rcases ts with - | ⟨tree, - | ⟨next, us⟩⟩
    · cases arrow
    · cases tree <;> simp [Tree.atOperator, Tree.atMarks] at arrow
    · cases tree <;> cases next <;> simp [Tree.atOperator, Tree.atMarks] at arrow
      obtain ⟨⟨rfl, rfl⟩, rfl⟩ := arrow
      exact ⟨_, us, rfl⟩
  -- The minus sign is in front of an operand, and a mark of comparison opens none.
  have nothing : ((level depth).expr struct).run (.punct '-' true :: .punct '>' joint :: us) =
      none := by
    cases depth with
    | zero => rfl
    | succ depth => cases depth <;> rfl
  rw [nothing] at read
  cases read

/-- A closure without parameters is an expression if its body is one. -/
theorem run_readExpr_closure {struct : Bool}
    (arrow : Tree.atOperator "->" ts = false)
    (read : (g.expr struct).run ts = some (e, [])) :
    (g.readExpr struct).run (.punct '|' true :: .punct '|' false :: ts) =
      some (e.endingAs, []) := by
  have atom : (g.atom struct).run (.punct '|' true :: .punct '|' false :: ts) =
      some (e.endingAs, []) := by
    have literal : Tree.atLiteral (.punct '|' true :: .punct '|' false :: ts) = false := by
      rw [← Bool.not_eq_true, Tree.atLiteral_punct_iff]
      simp
    have asyncBlock : atAsyncBlock (.punct '|' true :: .punct '|' false :: ts) = false := rfl
    have tryBlock : Tree.atWord "try" (.punct '|' true :: .punct '|' false :: ts) = false := rfl
    have opens : atClosure (.punct '|' true :: .punct '|' false :: ts) = true := rfl
    rw [← run_closure arrow read]
    simp only [Grammar.atom, StateT.run_bind, Reader.run_rest, Option.bind_eq_bind,
      Option.bind_some, literal, asyncBlock, tryBlock, Bool.false_and, Bool.false_eq_true, if_false,
      opens, if_true]
  have trailers : (g.readTrailers e.endingAs).run [] = some (e.endingAs, []) :=
    Reader.run_loop (.stop (run_trailerStep_stop (.alone []) _))
  exact run_readExpr_of_readUnary (run_readUnary_of_atom rfl atom trailers) (.alone [])

/-! ### Bindings and fields -/

/-- The trees in front of the value of a binding. -/
def bindingTrees (name : String) (type : List Tree) : List Tree :=
  .ident "let" :: .ident name :: .punct ':' false :: (type ++ [.punct '=' false])

theorem macroPlace_let (ts : List Tree) : macroPlace (.ident "let" :: ts) = .none := by
  have unnamed : plainPath.run (.ident "let" :: ts) = none := by
    have step : Reader.Iterates (fun _ : Unit => do
        let more ← (do
          let _ ← pathWord
          Reader.operator? "::")
        return (more, ())) () (.ident "let" :: ts) none := .fail rfl
    have colons : (Reader.operator? "::").run (.ident "let" :: ts) =
        some (false, .ident "let" :: ts) := Reader.run_operator?_absent rfl
    rw [plainPath, StateT.run_bind, colons]
    exact Reader.run_loop step
  rw [macroPlace, unnamed]

theorem run_statement_let {type : List Tree} {k : PatternKind} {t : TypeExpr} {joint : Bool}
    (pattern : ∀ us, (g.pattern).run (.ident name :: .punct ':' false :: us) =
      some (k, .punct ':' false :: us))
    (typed : (g.type true).run (type ++ .punct '=' false :: ts) = some (t, .punct '=' false :: ts))
    (read : (g.expr true).run ts = some (e, [.punct ';' joint])) :
    (g.statement).run (bindingTrees name type ++ ts) = some (false, []) := by
  have whole : bindingTrees name type ++ ts =
      .ident "let" :: .ident name :: .punct ':' false :: (type ++ .punct '=' false :: ts) := by
    simp [bindingTrees]
  have word (us : List Tree) : (Reader.word "let").run (.ident "let" :: us) = some ((), us) := rfl
  have binding : (g.localBinding).run (bindingTrees name type ++ ts) = some ((), []) := by
    rw [whole]
    simp [localBinding, word, pattern, typed, read, Tree.atWord]
  have attributes := run_outerAttributes (g := g) (bindingTrees name type ++ ts) rfl
  have place : macroPlace (bindingTrees name type ++ ts) = .none := macroPlace_let _
  have opens : Tree.atWord "let" (bindingTrees name type ++ ts) = true := rfl
  simp [statement, attributes, place, opens, binding]

theorem run_fieldValue (free : name ∉ Tree.reserved)
    (read : (g.expr true).run ts = some (e, [])) :
    (g.fieldValue).run (.ident name :: .punct ':' false :: ts) = some ((), []) := by
  have attributes := run_outerAttributes (g := g) (.ident name :: .punct ':' false :: ts) rfl
  have named : (fieldName).run (.ident name :: .punct ':' false :: ts) =
      some (true, .punct ':' false :: ts) := by
    simp [fieldName, atIdent_of_free free, Reader.run_ident _ free]
  have colon : Tree.atOperator ":" (.punct ':' false :: ts) = true := rfl
  simp [fieldValue, attributes, named, colon, read]

end Grammar

end Companion.Code

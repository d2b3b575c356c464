import Companion.Proofs.Code.Alike

/-! Levels of the grammar read fragments in the same way if they are deep enough.

The productions of a grammar refer to those one level down. If these agree on fragments of less
than `size` tokens, then the productions above agree on one token more: whatever one of them calls,
it has read a token first, or calls what has not read one either and then does. Two levels read at
least one token, so that twice as many levels as a fragment has tokens read it as any more do.
-/

set_option autoImplicit false

-- Instances follow the text of a production, so that they are as large as it is.
set_option synthInstance.maxSize 1000000

namespace Companion.Code

/-- The productions of the grammars read fragments of less than `size` tokens in the same way. -/
class Agree (size : Nat) (g g' : Grammar) : Prop where
  type (stopped plus : Bool) : Alike stopped size true surely (g.type plus) (g'.type plus)
  bound (stopped : Bool) (forms : BoundForms) :
    Alike stopped size true surely (g.bound forms) (g'.bound forms)
  expr (stopped struct : Bool) : Alike stopped size true surely (g.expr struct) (g'.expr struct)
  unary (stopped struct : Bool) : Alike stopped size true surely (g.unary struct) (g'.unary struct)
  operators (stopped struct : Bool) (base : Precedence) (left : Expr) :
    Alike stopped size true maybe (g.operators struct base left) (g'.operators struct base left)
  statementExpr : Alike false size true surely g.statementExpr g'.statementExpr
  pattern (stopped : Bool) : Alike stopped size true surely g.pattern g'.pattern
  statements : Alike false size true maybe g.statements g'.statements
  item : Alike false size true surely g.item g'.item
  field : Alike false size true surely g.field g'.field
  useTree (rooted : Bool) : Alike false size true surely (g.useTree rooted) (g'.useTree rooted)

/-- The productions that others call before they have read anything agree on one more token. -/
class Near (size : Nat) (g g' : Grammar) : Prop extends Agree size g g' where
  bound_fresh (stopped : Bool) (forms : BoundForms) :
    Alike stopped size false surely (g.bound forms) (g'.bound forms)
  item_fresh : Alike false size false surely g.item g'.item
  statementExpr_fresh : Alike false size false surely g.statementExpr g'.statementExpr

namespace Alike

variable {α : Type} {stopped moved : Bool} {size : Nat} {g g' : Grammar}

theorem of_surely {moves : α → Bool} {p p' : Reader α}
    (alike : Alike stopped size moved surely p p') : Alike stopped size moved moves p p' :=
  alike.mono fun _ _ => rfl

section

variable [agree : Agree size g g']

instance type (plus : Bool) {moves : TypeExpr → Bool} :
    Alike stopped size true moves (g.type plus) (g'.type plus) := (agree.type _ _).of_surely

instance bound (forms : BoundForms) {moves : Bound → Bool} :
    Alike stopped size true moves (g.bound forms) (g'.bound forms) := (agree.bound _ _).of_surely

instance expr (struct : Bool) {moves : Expr → Bool} :
    Alike stopped size true moves (g.expr struct) (g'.expr struct) := (agree.expr _ _).of_surely

instance unary (struct : Bool) {moves : Expr → Bool} :
    Alike stopped size true moves (g.unary struct) (g'.unary struct) := (agree.unary _ _).of_surely

instance operators (struct : Bool) (base : Precedence) (left : Expr) :
    Alike stopped size true maybe (g.operators struct base left) (g'.operators struct base left) :=
  agree.operators _ _ _ _

instance statementExpr {moves : Expr → Bool} :
    Alike false size true moves g.statementExpr g'.statementExpr := agree.statementExpr.of_surely

instance pattern {moves : PatternKind → Bool} :
    Alike stopped size true moves g.pattern g'.pattern := (agree.pattern _).of_surely

instance statements : Alike false size true maybe g.statements g'.statements := agree.statements

instance item {moves : Unit → Bool} : Alike false size true moves g.item g'.item :=
  agree.item.of_surely

instance field {moves : Unit → Bool} : Alike false size true moves g.field g'.field :=
  agree.field.of_surely

instance useTree (rooted : Bool) {moves : Unit → Bool} :
    Alike false size true moves (g.useTree rooted) (g'.useTree rooted) :=
  (agree.useTree _).of_surely

end

/-! ### Attributes and plain paths -/

instance pathWord {moves : String → Bool} : Alike stopped size moved moves pathWord pathWord := by
  dsimp only [Code.pathWord]
  infer_instance

instance plainPath : Alike stopped size moved maybe plainPath plainPath := by
  dsimp only [Code.plainPath]
  infer_instance

section

variable [Agree size g g']

instance attributeBody : Alike false size true maybe g.attributeBody g'.attributeBody := by
  dsimp only [Grammar.attributeBody]
  infer_instance

instance outerAttributes : Alike stopped size moved maybe g.outerAttributes g'.outerAttributes := by
  dsimp only [Grammar.outerAttributes]
  infer_instance

instance innerAttributes : Alike false size moved maybe g.innerAttributes g'.innerAttributes := by
  dsimp only [Grammar.innerAttributes]
  infer_instance

/-! ### Types -/

instance constArgument {moves : Unit → Bool} :
    Alike stopped size moved moves g.constArgument g'.constArgument := by
  dsimp only [Grammar.constArgument]
  infer_instance

instance boundsUntil (const : Bool) (stop : List Tree → Bool) [Steady stopped stop] :
    Alike stopped size true maybe (g.boundsUntil const stop) (g'.boundsUntil const stop) := by
  dsimp only [Grammar.boundsUntil]
  infer_instance

instance associated : Alike stopped size true maybe g.associated g'.associated := by
  dsimp only [Grammar.associated]
  infer_instance

instance argument {moves : Argument → Bool} :
    Alike stopped size true moves g.argument g'.argument := by
  dsimp only [Grammar.argument]
  refine seq inferInstance fun _ => choice inferInstance ?_
  refine seq inferInstance fun _ => choice inferInstance ?_
  refine seq_surely inferInstance fun type => ?_
  split <;> infer_instance

end

instance segment (inExpr : Bool) {arguments arguments' : Reader (List Argument)}
    [Alike stopped size true maybe arguments arguments'] {moves : Segment → Bool} :
    Alike stopped size moved moves (Grammar.segment inExpr arguments)
      (Grammar.segment inExpr arguments') := by
  dsimp only [Grammar.segment]
  infer_instance

instance angled {item item' : Reader α} [Alike stopped size true maybe item item']
    {moves : List α → Bool} :
    Alike stopped size moved moves (Grammar.angled item) (Grammar.angled item') := by
  dsimp only [Grammar.angled]
  infer_instance

instance moreSegments {segment segment' : Reader Segment}
    [Alike stopped size true maybe segment segment'] (first : List Segment) :
    Alike stopped size moved maybe (Grammar.moreSegments segment first)
      (Grammar.moreSegments segment' first) := by
  dsimp only [Grammar.moreSegments]
  infer_instance

section

variable [Agree size g g']

instance typePath (inExpr : Bool) {moves : Path → Bool} :
    Alike stopped size moved moves (g.typePath inExpr) (g'.typePath inExpr) := by
  dsimp only [Grammar.typePath]
  infer_instance

instance output : Alike stopped size moved maybe g.output g'.output := by
  dsimp only [Grammar.output]
  infer_instance

instance signatureArguments {moves : Option TypeExpr → Bool} :
    Alike stopped size moved moves g.signatureArguments g'.signatureArguments := by
  dsimp only [Grammar.signatureArguments]
  infer_instance

instance genericParameter :
    Alike stopped size moved maybe g.genericParameter g'.genericParameter := by
  dsimp only [Grammar.genericParameter]
  infer_instance

instance quantifier : Alike stopped size moved id g.quantifier g'.quantifier := by
  dsimp only [Grammar.quantifier]
  infer_instance

instance quantifier_maybe : Alike stopped size moved maybe g.quantifier g'.quantifier :=
  (quantifier : Alike stopped size moved id g.quantifier g'.quantifier).mono nofun

instance generics : Alike stopped size moved maybe g.generics g'.generics := by
  dsimp only [Grammar.generics]
  infer_instance

instance traitPath {moves : Path → Bool} :
    Alike stopped size moved moves g.traitPath g'.traitPath := by
  dsimp only [Grammar.traitPath]
  infer_instance

instance traitBound (forms : BoundForms) {moves : Bound → Bool} :
    Alike stopped size moved moves (g.traitBound forms) (g'.traitBound forms) := by
  dsimp only [Grammar.traitBound]
  infer_instance

theorem readBound (forms : BoundForms) {moves : Bound → Bool} :
    Alike stopped size moved moves (g.readBound forms) (g'.readBound forms) := by
  dsimp only [Grammar.readBound]
  refine rest fun place => ?_
  refine seq inferInstance fun _ => choice inferInstance (told inferInstance inferInstance ?_)
  refine seq inferInstance fun _ => choice (seq_surely inferInstance fun bound => ?_)
    (seq_surely inferInstance fun bound => ?_)
  all_goals cases bound <;> infer_instance

end

instance bounds [∀ forms, Alike stopped size moved surely (g.bound forms) (g'.bound forms)]
    (plus : Bool) (forms : BoundForms) {moves : List Bound × Bool → Bool} :
    Alike stopped size moved moves (g.bounds plus forms) (g'.bounds plus forms) := by
  dsimp only [Grammar.bounds]
  infer_instance

section

variable [Agree size g g']

instance qualifiedPath (inExpr : Bool) {moves : Bool × Path → Bool} :
    Alike stopped size moved moves (g.qualifiedPath inExpr) (g'.qualifiedPath inExpr) := by
  dsimp only [Grammar.qualifiedPath]
  infer_instance

end

instance objectBounds [∀ forms, Alike stopped size moved surely (g.bound forms) (g'.bound forms)]
    (plus : Bool) {moves : List Bound × Bool → Bool} :
    Alike stopped size moved moves (g.objectBounds plus) (g'.objectBounds plus) := by
  dsimp only [Grammar.objectBounds]
  infer_instance

section

variable [Agree size g g']

instance moreBounds : Alike stopped size moved maybe g.moreBounds g'.moreBounds := by
  dsimp only [Grammar.moreBounds]
  infer_instance

instance insideParentheses :
    Alike false size true maybe g.insideParentheses g'.insideParentheses := by
  dsimp only [Grammar.insideParentheses]
  infer_instance

instance parenthesizedType (plus : Bool) {moves : TypeExpr → Bool} :
    Alike stopped size moved moves (g.parenthesizedType plus) (g'.parenthesizedType plus) := by
  dsimp only [Grammar.parenthesizedType]
  refine seq_surely inferInstance fun inner => ?_
  split
  · infer_instance
  · split <;> infer_instance
  · infer_instance

instance functionInput (first : Bool) :
    Alike false size true maybe (g.functionInput first) (g'.functionInput first) := by
  dsimp only [Grammar.functionInput]
  infer_instance

instance functionType {moves : Option TypeExpr → Bool} :
    Alike stopped size moved moves g.functionType g'.functionType := by
  dsimp only [Grammar.functionType]
  refine seq inferInstance fun _ => told inferInstance ?_ inferInstance
  refine seq (@peek _ _ _ _ ?_) fun _ => inferInstance
  exact Steady.of_head (fun tree _ _ => by cases tree <;> rfl) rfl fun _ _ _ => rfl

instance pathType (plus quantified : Bool) {moves : TypeExpr → Bool} :
    Alike stopped size moved moves (g.pathType plus quantified) (g'.pathType plus quantified) := by
  dsimp only [Grammar.pathType]
  infer_instance

instance builtin {moves : Unit → Bool} :
    Alike stopped size moved moves Grammar.builtin Grammar.builtin := by
  dsimp only [Grammar.builtin]
  infer_instance

instance insideBrackets : Alike false size true maybe g.insideBrackets g'.insideBrackets := by
  dsimp only [Grammar.insideBrackets]
  refine seq_surely inferInstance fun element => told inferInstance ?_ inferInstance
  refine seq_surely inferInstance fun length => ?_
  split <;> infer_instance

end

instance bound_fresh [near : Near size g g'] (forms : BoundForms) {moves : Bound → Bool} :
    Alike stopped size moved moves (g.bound forms) (g'.bound forms) :=
  (near.bound_fresh _ _).of_fresh.of_surely

instance item_fresh [near : Near size g g'] {moves : Unit → Bool} :
    Alike false size moved moves g.item g'.item :=
  near.item_fresh.of_fresh.of_surely

instance statementExpr_fresh [near : Near size g g'] {moves : Expr → Bool} :
    Alike false size moved moves g.statementExpr g'.statementExpr :=
  near.statementExpr_fresh.of_fresh.of_surely

theorem readType [Near size g g'] (plus : Bool) {moves : TypeExpr → Bool} :
    Alike stopped size moved moves (g.readType plus) (g'.readType plus) := by
  dsimp only [Grammar.readType]
  infer_instance

/-! ### Patterns -/

instance rangeSign (inPattern : Bool) {moves : Bool → Bool} :
    Alike stopped size moved moves (rangeSign inPattern) (rangeSign inPattern) := by
  dsimp only [Code.rangeSign]
  infer_instance

section

variable [Agree size g g']

instance constBlock {moves : Unit → Bool} :
    Alike stopped size moved moves g.constBlock g'.constBlock := by
  dsimp only [Grammar.constBlock]
  infer_instance

instance alternatives : Alike stopped size true maybe g.alternatives g'.alternatives := by
  dsimp only [Grammar.alternatives]
  infer_instance

instance rangeEnd : Alike stopped size moved maybe g.rangeEnd g'.rangeEnd := by
  dsimp only [Grammar.rangeEnd]
  infer_instance

instance rangeEnd_id : Alike stopped size moved id g.rangeEnd g'.rangeEnd := by
  dsimp only [Grammar.rangeEnd]
  infer_instance

instance rangeTail {moves : PatternKind → Bool} :
    Alike stopped size moved moves g.rangeTail g'.rangeTail := by
  dsimp only [Grammar.rangeTail]
  infer_instance

instance fieldName {moves : Bool → Bool} :
    Alike stopped size moved moves Grammar.fieldName Grammar.fieldName := by
  dsimp only [Grammar.fieldName]
  refine seq inferInstance fun _ => choice inferInstance (seq_surely inferInstance fun text => ?_)
  split <;> infer_instance

instance fieldPattern : Alike false size true maybe g.fieldPattern g'.fieldPattern := by
  dsimp only [Grammar.fieldPattern]
  infer_instance

instance structPattern {moves : Unit → Bool} :
    Alike stopped size moved moves g.structPattern g'.structPattern := by
  dsimp only [Grammar.structPattern]
  infer_instance

instance pathPattern {moves : PatternKind → Bool} :
    Alike stopped size moved moves g.pathPattern g'.pathPattern := by
  dsimp only [Grammar.pathPattern]
  infer_instance

theorem readPattern {moves : PatternKind → Bool} :
    Alike stopped size moved moves g.readPattern g'.readPattern := by
  dsimp only [Grammar.readPattern]
  infer_instance

end

/-! ### Expressions -/

theorem run_rest_bind {β : Type} (f : List Tree → Reader β) (ts : List Tree) :
    (Reader.rest >>= f).run ts = (f ts).run ts := rfl

theorem run_drop_bind {β : Type} (f : Unit → Reader β) (tree : Tree) (ts : List Tree) :
    (Reader.drop 1 >>= f).run (tree :: ts) = (f ()).run ts := rfl

section

variable [Agree size g g']

instance block {moves : Unit → Bool} : Alike stopped size moved moves g.block g'.block := by
  dsimp only [Grammar.block]
  infer_instance

instance attributedBlock {moves : Unit → Bool} :
    Alike stopped size moved moves g.attributedBlock g'.attributedBlock := by
  dsimp only [Grammar.attributedBlock]
  infer_instance

instance operand (struct : Bool) (precedence : Precedence) :
    Alike stopped size true maybe (g.operand struct precedence) (g'.operand struct precedence) := by
  dsimp only [Grammar.operand]
  refine seq_surely inferInstance fun first => loop_of (fun right => rest fun place => ?_) first
  rw [place.isPlaced.nextPrecedence]
  infer_instance

instance rangeRest (struct closed : Bool) :
    Alike stopped size true maybe (g.rangeRest struct closed) (g'.rangeRest struct closed) := by
  dsimp only [Grammar.rangeRest]
  infer_instance

instance operatorStep (struct : Bool) (base : Precedence) (left : Expr) :
    Alike stopped size moved Prod.fst (g.operatorStep struct base left)
      (g'.operatorStep struct base left) := by
  dsimp only [Grammar.operatorStep]
  refine rest fun place => ?_
  rw [place.isPlaced.binaryOperator?]
  refine choice inferInstance ?_
  split
  next text precedence found =>
    have : Sign stopped text := Placed.sign_of_binaryOperator (List.mem_of_find?_eq_some found)
    infer_instance
  next absent =>
    rw [Steady.atAssign.same place.isPlaced]
    rw [(Steady.atOperator "..").same place.isPlaced, (Steady.atWord "as").same place.isPlaced]
    infer_instance

instance readOperators (struct : Bool) (base : Precedence) (left : Expr) :
    Alike stopped size moved maybe (g.readOperators struct base left)
      (g'.readOperators struct base left) := by
  dsimp only [Grammar.readOperators]
  infer_instance

instance arguments {moves : Unit → Bool} :
    Alike stopped size moved moves g.arguments g'.arguments := by
  dsimp only [Grammar.arguments]
  infer_instance

instance member : Alike stopped size true maybe g.member g'.member := by
  constructor
  intro ts ts' placed light
  dsimp only [Grammar.member]
  rw [run_rest_bind, run_rest_bind]
  by_cases literal : ∃ text rest, ts = .literal text :: rest
  · obtain ⟨text, rest, rfl⟩ := literal
    obtain ⟨rest', rfl, placed'⟩ := of_unmarked (fun _ _ => Tree.noConfusion) placed
    dsimp only
    split
    · rw [run_drop_bind, run_drop_bind]
      have lighter := light_of_left light (List.suffix_cons _ _)
      refine rel_mono (?_ : Option.Rel (SameRead stopped maybe rest) _ _) fun _ _ same =>
        { same with left := same.left.trans (List.suffix_cons _ _), moved := nofun }
      exact Alike.run placed' lighter
    · exact Alike.run placed light
  · rw [not_exists] at literal
    cases placed with
    | alone =>
      rename_i ts
      rcases ts with - | ⟨tree, ts⟩
      · exact Alike.run (.alone _) light
      · cases tree with
        | literal text => exact absurd ⟨ts, rfl⟩ (literal text)
        | _ => exact Alike.run (.alone _) light
    | stop joint => exact Alike.run (.stop joint) light
    | last => exact Alike.run (.last _ _ _ _) light
    | cons tree rest =>
      cases tree with
      | literal text => exact absurd ⟨_, rfl⟩ (literal text)
      | _ => exact Alike.run (.cons _ rest) light

instance readTrailers (e : Expr) :
    Alike stopped size moved maybe (g.readTrailers e) (g'.readTrailers e) := by
  dsimp only [Grammar.readTrailers]
  infer_instance

instance fieldValue : Alike false size true maybe g.fieldValue g'.fieldValue := by
  dsimp only [Grammar.fieldValue]
  infer_instance

instance structFields {moves : Unit → Bool} :
    Alike stopped size moved moves g.structFields g'.structFields := by
  dsimp only [Grammar.structFields]
  infer_instance

instance pathExpr (struct : Bool) {moves : Expr → Bool} :
    Alike stopped size moved moves (g.pathExpr struct) (g'.pathExpr struct) := by
  dsimp only [Grammar.pathExpr]
  infer_instance

instance closureInput : Alike stopped size true maybe g.closureInput g'.closureInput := by
  dsimp only [Grammar.closureInput]
  infer_instance

instance closure (struct : Bool) {moves : Expr → Bool} :
    Alike stopped size moved moves (g.closure struct) (g'.closure struct) := by
  dsimp only [Grammar.closure]
  infer_instance

instance conditional {moves : Unit → Bool} :
    Alike stopped size moved moves g.conditional g'.conditional := by
  dsimp only [Grammar.conditional]
  infer_instance

instance whileLoop {moves : Unit → Bool} :
    Alike stopped size moved moves g.whileLoop g'.whileLoop := by
  dsimp only [Grammar.whileLoop]
  infer_instance

instance forLoop {moves : Unit → Bool} : Alike stopped size moved moves g.forLoop g'.forLoop := by
  dsimp only [Grammar.forLoop]
  infer_instance

instance endlessLoop {moves : Unit → Bool} :
    Alike stopped size moved moves g.endlessLoop g'.endlessLoop := by
  dsimp only [Grammar.endlessLoop]
  infer_instance

instance arm {moves : Unit → Bool} : Alike false size true moves g.arm g'.arm := by
  dsimp only [Grammar.arm]
  infer_instance

instance matchExpr {moves : Unit → Bool} :
    Alike stopped size moved moves g.matchExpr g'.matchExpr := by
  dsimp only [Grammar.matchExpr]
  infer_instance

instance labelled {moves : Unit → Bool} :
    Alike stopped size moved moves g.labelled g'.labelled := by
  dsimp only [Grammar.labelled]
  infer_instance

instance parenthesizedExpr {moves : Unit → Bool} :
    Alike stopped size moved moves g.parenthesizedExpr g'.parenthesizedExpr := by
  dsimp only [Grammar.parenthesizedExpr]
  infer_instance

instance arrayExpr {moves : Unit → Bool} :
    Alike stopped size moved moves g.arrayExpr g'.arrayExpr := by
  dsimp only [Grammar.arrayExpr]
  infer_instance

instance jumpValue (present : Bool) :
    Alike stopped size true maybe (g.jumpValue present) (g'.jumpValue present) := by
  dsimp only [Grammar.jumpValue]
  infer_instance

instance breakExpr (struct : Bool) {moves : Expr → Bool} :
    Alike stopped size moved moves (g.breakExpr struct) (g'.breakExpr struct) := by
  dsimp only [Grammar.breakExpr]
  infer_instance

instance letExpr (struct : Bool) {moves : Expr → Bool} :
    Alike stopped size moved moves (g.letExpr struct) (g'.letExpr struct) := by
  dsimp only [Grammar.letExpr]
  infer_instance

instance atom (struct : Bool) {moves : Expr → Bool} :
    Alike stopped size moved moves (g.atom struct) (g'.atom struct) := by
  dsimp only [Grammar.atom]
  infer_instance

instance readUnary (struct : Bool) {moves : Expr → Bool} :
    Alike stopped size moved moves (g.readUnary struct) (g'.readUnary struct) := by
  dsimp only [Grammar.readUnary]
  infer_instance

theorem readExpr (struct : Bool) {moves : Expr → Bool} :
    Alike stopped size moved moves (g.readExpr struct) (g'.readExpr struct) := by
  dsimp only [Grammar.readExpr]
  infer_instance

theorem readStatementExpr {moves : Expr → Bool} :
    Alike false size moved moves g.readStatementExpr g'.readStatementExpr := by
  dsimp only [Grammar.readStatementExpr]
  refine seq inferInstance fun _ => rest fun place => ?_
  rw [place.isPlaced.eq]
  have early : Option.Rel (Alike false size moved surely) (g.earlyBlock? place.alone)
      (g'.earlyBlock? place.alone) := by
    unfold Grammar.earlyBlock?
    repeat first
      | exact .none
      | refine rel_ite (.some inferInstance) ?_
  generalize g.earlyBlock? place.alone = block, g'.earlyBlock? place.alone = block' at early ⊢
  cases early with
  | none => infer_instance
  | some same => infer_instance

end

/-! ### Statements -/

section

variable [Agree size g g']

instance localBinding {moves : Unit → Bool} :
    Alike false size moved moves g.localBinding g'.localBinding := by
  dsimp only [Grammar.localBinding]
  infer_instance

end

instance statement [Near size g g'] {moves : Bool → Bool} :
    Alike false size moved moves g.statement g'.statement := by
  dsimp only [Grammar.statement]
  refine seq inferInstance fun _ => rest fun place => ?_
  rw [place.isPlaced.eq]
  split <;> infer_instance

theorem readStatements [Near size g g'] :
    Alike false size moved maybe g.readStatements g'.readStatements := by
  dsimp only [Grammar.readStatements]
  infer_instance

/-! ### Items -/

section

variable [Agree size g g']

instance visibility : Alike false size moved maybe Grammar.visibility Grammar.visibility := by
  dsimp only [Grammar.visibility]
  refine told inferInstance ?_ inferInstance
  refine of_suffix fun ts a left read => ?_
  rw [run_rest_bind] at read
  split at read
  next body after =>
    have behind : after <:+ .group .parenthesis body :: after := List.suffix_cons _ _
    split at read
    next name =>
      split at read
      · cases read
        exact behind
      · cases read
        exact List.suffix_rfl
    next path =>
      split at read
      · cases read
        exact behind
      · cases read
    next =>
      cases read
      exact List.suffix_rfl
  next =>
    cases read
    exact List.suffix_rfl

instance condition : Alike false size true maybe g.condition g'.condition := by
  dsimp only [Grammar.condition]
  infer_instance

instance whereClause : Alike false size moved maybe g.whereClause g'.whereClause := by
  dsimp only [Grammar.whereClause]
  infer_instance

instance returnType : Alike false size moved maybe g.returnType g'.returnType := by
  dsimp only [Grammar.returnType]
  infer_instance

instance convention : Alike false size moved id Grammar.convention Grammar.convention := by
  dsimp only [Grammar.convention]
  infer_instance

instance convention_maybe : Alike false size moved maybe Grammar.convention Grammar.convention :=
  convention.mono nofun

instance safety (foreign : Bool) :
    Alike false size moved maybe (Grammar.safety foreign) (Grammar.safety foreign) := by
  dsimp only [Grammar.safety]
  infer_instance

instance qualifiers (foreign : Bool) :
    Alike false size moved maybe (Grammar.qualifiers foreign) (Grammar.qualifiers foreign) := by
  dsimp only [Grammar.qualifiers]
  infer_instance

instance receiver {moves : Unit → Bool} : Alike false size moved moves g.receiver g'.receiver := by
  dsimp only [Grammar.receiver]
  infer_instance

instance parameter : Alike false size true maybe g.parameter g'.parameter := by
  dsimp only [Grammar.parameter]
  infer_instance

instance parameters : Alike false size true maybe g.parameters g'.parameters := by
  dsimp only [Grammar.parameters]
  infer_instance

instance signature (foreign : Bool) {moves : Unit → Bool} :
    Alike false size moved moves (g.signature foreign) (g'.signature foreign) := by
  dsimp only [Grammar.signature]
  infer_instance

instance function (foreign : Bool) {moves : Unit → Bool} :
    Alike false size moved moves (g.function foreign) (g'.function foreign) := by
  dsimp only [Grammar.function]
  infer_instance

instance constantName {moves : Unit → Bool} :
    Alike false size moved moves Grammar.constantName Grammar.constantName := by
  dsimp only [Grammar.constantName]
  infer_instance

instance constant {moves : Unit → Bool} : Alike false size moved moves g.constant g'.constant := by
  dsimp only [Grammar.constant]
  infer_instance

instance static {moves : Unit → Bool} : Alike false size moved moves g.static g'.static := by
  dsimp only [Grammar.static]
  infer_instance

instance foreignStatic {moves : Unit → Bool} :
    Alike false size moved moves g.foreignStatic g'.foreignStatic := by
  dsimp only [Grammar.foreignStatic]
  infer_instance

instance typeAlias (place : Grammar.ConditionPlace) {moves : Unit → Bool} :
    Alike false size moved moves (g.typeAlias place) (g'.typeAlias place) := by
  dsimp only [Grammar.typeAlias]
  infer_instance

theorem readField {moves : Unit → Bool} :
    Alike false size moved moves g.readField g'.readField := by
  dsimp only [Grammar.readField]
  infer_instance

instance namedFields {moves : Unit → Bool} :
    Alike false size moved moves g.namedFields g'.namedFields := by
  dsimp only [Grammar.namedFields]
  infer_instance

instance tupleField : Alike false size true maybe g.tupleField g'.tupleField := by
  dsimp only [Grammar.tupleField]
  infer_instance

instance tupleFields {moves : Unit → Bool} :
    Alike false size moved moves g.tupleFields g'.tupleFields := by
  dsimp only [Grammar.tupleFields]
  infer_instance

instance struct {moves : Unit → Bool} : Alike false size moved moves g.struct g'.struct := by
  dsimp only [Grammar.struct]
  infer_instance

instance variant {moves : Unit → Bool} : Alike false size true moves g.variant g'.variant := by
  dsimp only [Grammar.variant]
  infer_instance

instance enum {moves : Unit → Bool} : Alike false size moved moves g.enum g'.enum := by
  dsimp only [Grammar.enum]
  infer_instance

instance union {moves : Unit → Bool} : Alike false size moved moves g.union g'.union := by
  dsimp only [Grammar.union]
  infer_instance

instance macroGroup {moves : Unit → Bool} :
    Alike false size moved moves Grammar.macroGroup Grammar.macroGroup := by
  dsimp only [Grammar.macroGroup]
  infer_instance

instance macroItem (named : Bool) {moves : Unit → Bool} :
    Alike false size moved moves (Grammar.macroItem named) (Grammar.macroItem named) := by
  dsimp only [Grammar.macroItem]
  infer_instance

instance macroDefinition {moves : Unit → Bool} :
    Alike false size moved moves Grammar.macroDefinition Grammar.macroDefinition := by
  dsimp only [Grammar.macroDefinition]
  infer_instance

theorem readUseTree (rooted : Bool) {moves : Unit → Bool} :
    Alike false size moved moves (g.readUseTree rooted) (g'.readUseTree rooted) := by
  dsimp only [Grammar.readUseTree]
  infer_instance

instance useItem {moves : Unit → Bool} : Alike false size moved moves g.useItem g'.useItem := by
  dsimp only [Grammar.useItem]
  infer_instance

instance externCrate {moves : Unit → Bool} :
    Alike false size moved moves Grammar.externCrate Grammar.externCrate := by
  dsimp only [Grammar.externCrate]
  infer_instance

instance memberItem (place : Grammar.Place) {moves : Unit → Bool} :
    Alike false size true moves (g.memberItem place) (g'.memberItem place) := by
  dsimp only [Grammar.memberItem]
  refine seq inferInstance fun _ => seq inferInstance fun visible => ?_
  cases place <;> infer_instance

instance members (place : Grammar.Place) {moves : Unit → Bool} :
    Alike false size moved moves (g.members place) (g'.members place) := by
  dsimp only [Grammar.members]
  infer_instance

instance foreignModule {moves : Unit → Bool} :
    Alike false size moved moves g.foreignModule g'.foreignModule := by
  dsimp only [Grammar.foreignModule]
  infer_instance

instance trait {moves : Unit → Bool} : Alike false size moved moves g.trait g'.trait := by
  dsimp only [Grammar.trait]
  infer_instance

instance implementation {moves : Unit → Bool} :
    Alike false size moved moves g.implementation g'.implementation := by
  dsimp only [Grammar.implementation]
  infer_instance

instance module {moves : Unit → Bool} : Alike false size moved moves g.module g'.module := by
  dsimp only [Grammar.module]
  infer_instance

instance unsafeItem (visible : Bool) (next : List Tree) {moves : Unit → Bool} :
    Alike false size moved moves (g.unsafeItem visible next) (g'.unsafeItem visible next) := by
  dsimp only [Grammar.unsafeItem]
  infer_instance

theorem readItem {moves : Unit → Bool} : Alike false size moved moves g.readItem g'.readItem := by
  dsimp only [Grammar.readItem]
  infer_instance

end

end Alike

/-! ### Levels -/

section

variable {size : Nat} {g g' : Grammar}

/-- A token that has been read is one token more. -/
theorem Alike.settle {α : Type} {stopped : Bool} {moves : α → Bool} {p p' : Reader α}
    (alike : Alike stopped size false moves p p') : Alike stopped (size + 1) true moves p p' :=
  ⟨alike.run⟩

theorem near_next [next : Agree size g.next g'.next] [Agree size g g'] :
    Near size g.next g'.next where
  toAgree := next
  bound_fresh _ _ := Alike.readBound _
  item_fresh := Alike.readItem
  statementExpr_fresh := Alike.readStatementExpr

theorem agree_next [Near size g g'] : Agree (size + 1) g.next g'.next where
  type _ _ := Alike.settle (Alike.readType _)
  bound _ _ := Alike.settle (Alike.readBound _)
  expr _ _ := Alike.settle (Alike.readExpr _)
  unary _ _ := Alike.settle (Alike.readUnary _)
  operators _ _ _ _ := Alike.settle (Alike.readOperators _ _ _)
  statementExpr := Alike.settle Alike.readStatementExpr
  pattern _ := Alike.settle Alike.readPattern
  statements := Alike.settle Alike.readStatements
  item := Alike.settle Alike.readItem
  field := Alike.settle Alike.readField
  useTree _ := Alike.settle (Alike.readUseTree _)

end

/-- No fragment has less than no tokens. -/
theorem Alike.of_zero {α : Type} {stopped : Bool} {moves : α → Bool} (p p' : Reader α) :
    Alike stopped 0 true moves p p' := ⟨fun _ light => absurd light (Nat.not_lt_zero _)⟩

/-- Two levels read each token, so that levels which are deep enough agree. -/
theorem agree_level {size depth depth' : Nat} (deep : 2 * size ≤ depth)
    (deep' : 2 * size ≤ depth') : Agree size (.level depth) (.level depth') := by
  induction size generalizing depth depth' with
  | zero => constructor <;> intros <;> exact Alike.of_zero _ _
  | succ size ih =>
    obtain ⟨depth, rfl⟩ : ∃ d, depth = d + 2 := ⟨depth - 2, by omega⟩
    obtain ⟨depth', rfl⟩ : ∃ d, depth' = d + 2 := ⟨depth' - 2, by omega⟩
    have : Agree size (.level depth) (.level depth') := ih (by omega) (by omega)
    have : Agree size (Grammar.level depth).next (Grammar.level depth').next :=
      ih (by omega : 2 * size ≤ depth + 1) (by omega : 2 * size ≤ depth' + 1)
    have : Near size (Grammar.level depth).next (Grammar.level depth').next := near_next
    change Agree (size + 1) (Grammar.level depth).next.next (Grammar.level depth').next.next
    exact agree_next

end Companion.Code

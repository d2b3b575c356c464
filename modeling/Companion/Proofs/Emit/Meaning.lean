import Companion.Proofs.Code.Relaid
import Companion.Proofs.Emit.Layout

/-! What a statement means, and what the lines mean that are emitted for it. -/

set_option autoImplicit false

namespace Companion

open Code Code.Lexer

/-! ### Lines of a text -/

namespace Chars

theorem lines_eq {cs : List Char} (written : cs ≠ []) :
    lines cs = (toLineEnd cs).1 :: lines (toLineEnd cs).2.tail := by
  fun_induction toLineEnd cs with
  | case1 => exact absurd rfl written
  | case2 rest => rfl
  | case3 rest => rfl
  | case4 c rest unfed kept ih =>
    conv_lhs => unfold lines
    rw [if_neg unfed]
    cases rest with
    | nil => rfl
    | cons d rest =>
      have long : ¬ (c = '\r' ∧ d = '\n') := by
        rintro ⟨rfl, rfl⟩
        exact kept rest rfl rfl
      simp only [ih (by simp), if_neg long]
      rfl

theorem trim_eq_nil_iff (cs : List Char) : trim isBlank cs = [] ↔ cs.all isBlank = true := by
  simp only [trim, trimEnd, trimStart, List.reverse_eq_nil_iff, List.dropWhile_eq_nil_iff,
    List.mem_reverse, List.all_eq_true]
  constructor
  · intro blank c member
    rw [← List.takeWhile_append_dropWhile (p := isBlank) (l := cs), List.mem_append] at member
    rcases member with taken | left
    · exact List.mem_takeWhile_imp taken
    · exact blank c left
  · exact fun blank c left => blank c (List.dropWhile_sublist _ |>.subset left)

end Chars

namespace Code.Lexer

theorem toLineEnd_ends (cs : List Char) :
    (toLineEnd cs).2 = [] ∨ ∃ more, (toLineEnd cs).2 = '\n' :: more := by
  fun_induction toLineEnd cs with
  | case1 => exact .inl rfl
  | case2 rest => exact .inr ⟨rest, rfl⟩
  | case3 rest => exact .inr ⟨rest, rfl⟩
  | case4 c rest unfed kept ih => exact ih

theorem Line.blankLine {line after : List Char} (isLine : Line line after) :
    blankLine (line ++ after) = line.all Chars.isBlank := by
  induction line with
  | nil => rcases isLine.ends with rfl | ⟨rest, rfl | rfl⟩ <;> rfl
  | cons c line ih =>
    have unfed : c ≠ '\n' := fun fed => isLine.unfed (fed ▸ List.mem_cons_self)
    have rest : Line line after := of_append (show Line ([c] ++ line) after from isLine)
    rw [List.cons_append, blankLine_cons, decide_eq_false unfed, Bool.false_or, ih rest]
    rfl

theorem Line.relay_dropped {line after : List Char} (isLine : Line line after) (width : Nat) :
    relay width true (line ++ after) = relay width false after := by
  induction line with
  | nil =>
    rcases isLine.ends with rfl | ⟨rest, rfl | rfl⟩
    · rfl
    · rw [List.nil_append, relay_feed, relay_feed]
    · rw [List.nil_append, relay_return, relay_return, relay_feed, relay_feed]
  | cons c line ih =>
    have unfed : c ≠ '\n' := fun fed => isLine.unfed (fed ▸ List.mem_cons_self)
    have rest : Line line after := of_append (show Line ([c] ++ line) after from isLine)
    rw [List.cons_append, Lexer.relay_dropped unfed, ih rest]

end Code.Lexer

namespace Emitter

theorem toList_indentLine (depth : Nat) (line : List Char) :
    (indentLine depth (String.ofList line)).toList =
      if line.all Chars.isBlank then [] else List.replicate (4 * depth) ' ' ++ line := by
  have blank : (Text.trim (String.ofList line)).isEmpty = line.all Chars.isBlank := by
    rw [Bool.eq_iff_iff, ← Chars.trim_eq_nil_iff, String.isEmpty_iff, Text.trim, Text.onChars,
      String.toList_ofList, String.ofList_eq_empty_iff]
  rw [indentLine, blank]
  split <;> simp

/-- The lines of a text are emitted as the text with its lines at a new depth. -/
theorem toList_lines (depth : Nat) (cs : List Char) :
    ("\n".intercalate ((Chars.lines cs).map fun line =>
      indentLine depth (String.ofList line))).toList = relaid (4 * depth) cs := by
  by_cases written : cs = []
  · subst written
    rfl
  obtain ⟨after, split, isLine, same⟩ := line_toLineEnd cs
  have first : relaid (4 * depth) cs =
      (indentLine depth (String.ofList (toLineEnd cs).1)).toList ++
        relay (4 * depth) false (toLineEnd cs).2 := by
    rw [toList_indentLine, relaid, ← same]
    conv_lhs => rw [split, isLine.blankLine, isLine.relay_dropped, isLine.relay_append]
    split
    · rfl
    · rw [List.append_assoc]
  rw [first, Chars.lines_eq written, List.map_cons]
  rcases toLineEnd_ends cs with ends | ⟨more, ends⟩ <;> rw [ends]
  · rw [List.tail_nil, Chars.lines, List.map_nil, String.intercalate_singleton]
    exact (List.append_nil _).symm
  · rw [List.tail_cons, relay_feed]
    by_cases last : more = []
    · subst last
      rw [Chars.lines, List.map_nil, String.intercalate_singleton, if_pos rfl]
      exact (List.append_nil _).symm
    · have shorter : more.length < cs.length := by
        obtain ⟨taken, whole⟩ := takes_toLineEnd cs
        have size := congrArg List.length whole
        rw [ends, List.length_append, List.length_cons] at size
        omega
      have later := toList_lines depth more
      rw [Chars.lines_eq last, List.map_cons] at later ⊢
      rw [String.intercalate_cons_cons, String.toList_append, String.toList_append, later,
        if_neg last, List.append_assoc]
      rfl
termination_by cs.length

theorem toList_text (depth : Nat) (text : String) :
    ("\n".intercalate ((Text.lines text).map (indentLine depth))).toList =
      relaid (4 * depth) text.toList := by
  rw [← toList_lines, Text.lines, List.map_map]
  rfl

end Emitter

/-! ### Byte order marks -/

namespace Code.Lexer

variable {c : Char} {cs : List Char} {width : Nat}

/-- A text that begins with no byte order mark. -/
def IsUnmarked (cs : List Char) : Prop := ∀ c ∈ cs.head?, c.toNat ≠ 0xFEFF

theorem withoutMark_of_isUnmarked (unmarked : IsUnmarked cs) : withoutMark cs = cs := by
  cases cs with
  | nil => rfl
  | cons c cs => rw [withoutMark, if_neg (unmarked c rfl)]

theorem isUnmarked_relaid (positive : 0 < width) (cs : List Char) :
    IsUnmarked (relaid width cs) := by
  obtain ⟨n, rfl⟩ := Nat.exists_eq_succ_of_ne_zero (Nat.ne_of_gt positive)
  obtain ⟨line, after, rfl, isLine⟩ := exists_line cs
  intro c first
  rw [relaid] at first
  split at first
  next =>
    rw [isLine.relay_dropped] at first
    rcases isLine.relay_ends (n + 1) with same | ⟨rest, same⟩ <;> rw [same] at first <;> cases first
    decide
  next =>
    cases first
    decide

/-- No token begins with a byte order mark. -/
theorem not_reads_of_mark (mark : c.toNat = 0xFEFF) (read : List Lexeme) :
    ¬ Reads (c :: cs) read := by
  refine Reads.not_of_front ?_ (by simp)
  have stuck := step_of_mark mark cs
  rwa [step_eq_lexemeStep, Option.map_eq_none_iff] at stuck

/-- The text is read as lexemes that mean the same. -/
def MeansAs (read : List Lexeme) (cs : List Char) : Prop :=
  ∃ read', lexemes cs = some read' ∧ read'.map Lexeme.meaning = read.map Lexeme.meaning

/-- Lines at a new depth mean what they meant, as long as no line feed counts. -/
theorem meansAs_relaid_iff (positive : 0 < width) {read : List Lexeme}
    (lexed : lexemes cs = some read) :
    MeansAs read (relaid width cs) ↔
      IsUnmarked cs ∧ ∀ lexeme ∈ read, lexeme.isUnbroken = true := by
  rw [lexemes_iff] at lexed
  simp only [MeansAs, lexemes_iff, withoutMark_of_isUnmarked (isUnmarked_relaid positive cs)]
  by_cases unmarked : IsUnmarked cs
  · rw [withoutMark_of_isUnmarked unmarked] at lexed
    rw [(carries_relaid positive lexed).iff, and_iff_right unmarked]
  · refine iff_of_false ?_ fun kept => unmarked kept.1
    rintro ⟨read', reads, -⟩
    cases cs with
    | nil => exact unmarked nofun
    | cons c cs =>
      have mark : c.toNat = 0xFEFF := by simpa [IsUnmarked] using unmarked
      have known : ∀ c ∈ [Char.ofNat 0xFEFF], c ≠ '\n' ∧ c ≠ '\r' ∧ Chars.isBlank c = false :=
        Chars.forall_mem_of_all (by decide)
      obtain ⟨unfed, unreturned, visible⟩ := known c
        (List.mem_singleton.mpr (by rw [← mark, Char.ofNat_toNat]))
      rw [relaid, blankLine_cons, decide_eq_false unfed, visible, Bool.false_and, Bool.or_false,
        if_neg (by simp), reads_blanks, relay_cons unfed (absurd · unreturned)] at reads
      exact not_reads_of_mark mark read' reads

end Code.Lexer

/-! ### Statements -/

namespace Emitter

theorem blocks_pos {e : Emitter} {text : String}
    (stands : Step.StandsIn e.current (.statement text)) : 0 < e.blocks.length := by
  unfold current at stands
  cases blocks : e.blocks with
  | nil => simp [blocks, Step.StandsIn] at stands
  | cons kind others => simp

/-- The lines that are emitted for a statement are those of its text, at the depth of the open
blocks. They mean what the text means exactly if the text begins with no byte order mark, and if no
string, comment or character in it has a line feed that counts. -/
theorem statement_means {e e' : Emitter} {text : String}
    (accepted : e.step (.statement text) = .ok e') (lexed : (Lexer.tokens text.toList).isSome) :
    ∃ read written, lexemes text.toList = some read ∧
      Lexer.tokens text.toList = some (read.flatMap Lexeme.tokens) ∧
      e'.lines.reverse = e.lines.reverse ++ written ∧
      (MeansAs read ("\n".intercalate written).toList ↔
        IsUnmarked text.toList ∧ ∀ lexeme ∈ read, lexeme.isUnbroken = true) := by
  obtain ⟨stands, rfl⟩ := (step_plain rfl).mp accepted
  rw [tokens_eq, Option.isSome_map] at lexed
  obtain ⟨read, lexed⟩ := Option.isSome_iff_exists.mp lexed
  refine ⟨read, (Text.lines text).map (indentLine e.blocks.length), lexed, ?_, ?_, ?_⟩
  · rw [tokens_eq, lexed]
    rfl
  · rw [after, List.reverse_reverse, Step.entries, Entry.foldl_extend_ofText]
  · have positive : 0 < 4 * e.blocks.length := Nat.mul_pos (by decide) (blocks_pos stands)
    rw [toList_text]
    exact meansAs_relaid_iff positive lexed

/-- The second line of a string is moved, and the string means another text. -/
theorem statement_means_spanned :
    ∃ e' read written,
      (⟨[], ["fn f() \x7b"], [.function], none⟩ : Emitter).step (.statement "let s = \"a\nb\";") =
        .ok e' ∧
      lexemes "let s = \"a\nb\";".toList = some read ∧
      e'.lines.reverse = "fn f() \x7b" :: written ∧
      ¬ MeansAs read ("\n".intercalate written).toList := by
  have lexed : lexemes "let s = \"a\nb\";".toList = some [.token (.ident "let"),
      .token (.ident "s"), .token (.punct '=' false), .token (.literal "\"a\nb\""),
      .token (.punct ';' false)] := by decide +kernel
  have broken : (Lexeme.token (.literal "\"a\nb\"")).isUnbroken = false := by decide
  obtain ⟨read, written, same, -, lines, means⟩ :=
    statement_means (e := ⟨[], ["fn f() \x7b"], [.function], none⟩) rfl
      (show (Lexer.tokens "let s = \"a\nb\";".toList).isSome by decide +kernel)
  cases lexed.symm.trans same
  refine ⟨_, _, written, rfl, same, lines, fun kept => ?_⟩
  have unbroken := (means.mp kept).2 (.token (.literal "\"a\nb\"")) (by simp)
  rw [broken] at unbroken
  cases unbroken

end Emitter

/-! ### Literals of generated code -/

namespace Code

theorem leavesOut_of_unfed {q : Quoted} {state : StringScan} {cs : List Char} (unfed : '\n' ∉ cs) :
    leavesOut q state cs = true := by
  induction cs generalizing state with
  | nil => rfl
  | cons c cs ih =>
    rw [List.mem_cons, not_or] at unfed
    rw [leavesOut]
    split
    · rfl
    · split
      next next _ => simp [Ne.symm unfed.1, ih unfed.2]
      next => rfl

/-- The literal of a text is one that lines at a new depth change if it is raw and spans lines. -/
theorem isUnbroken_stringLiteral (text : String) :
    (Lexeme.token (.literal (stringLiteral text))).isUnbroken = true ↔
      (StringLiteral.IsRaw text.toList → '\n' ∉ text.toList) := by
  rw [Lexeme.isUnbroken, toList_stringLiteral]
  by_cases raw : StringLiteral.IsRaw text.toList
  · rw [StringLiteral.write_of_isRaw raw, isUnbroken]
    · simp [raw]
    all_goals simp
  · rw [StringLiteral.write_of_not_isRaw raw, isUnbroken]
    refine iff_of_true (leavesOut_of_unfed ?_) (absurd · raw)
    simp only [List.mem_append, List.mem_flatMap, not_or, not_exists, not_and]
    refine ⟨fun c _ => ?_, by decide⟩
    rw [StringLiteral.escapeLineFeed]
    split
    · decide
    next other => simpa using Ne.symm other

end Code

end Companion

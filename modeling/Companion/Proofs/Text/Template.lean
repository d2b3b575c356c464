import Companion.Text.Template

/-! What templates say besides their arguments, and texts that they quote. -/

set_option autoImplicit false

namespace Companion.Template

/-! ### Filling the holes of a template -/

/-- What a template says before, between and after its holes. -/
def piecesIn : List Char → List (List Char)
  | [] => [[]]
  | '$' :: '$' :: rest => (piecesIn rest).modifyHead ('$' :: ·)
  | '$' :: rest => [] :: piecesIn rest
  | c :: rest => (piecesIn rest).modifyHead (c :: ·)

theorem piecesIn_cons {c : Char} (noDollar : c ≠ '$') (rest : List Char) :
    piecesIn (c :: rest) = (piecesIn rest).modifyHead (c :: ·) := by
  rw [piecesIn] <;> simp_all

/-- Arguments between pieces. -/
def interleave : List (List Char) → List (List Char) → List Char
  | piece :: others, argument :: arguments => piece ++ argument ++ interleave others arguments
  | pieces, _ => pieces.flatten

theorem length_piecesIn (cs : List Char) : (piecesIn cs).length = holesIn cs + 1 := by
  fun_induction piecesIn cs with
  | case1 => rfl
  | case2 rest ih => rw [List.length_modifyHead, ih, holesIn]
  | case3 rest single ih => rw [List.length_cons, ih, holesIn]; simp_all
  | case4 c rest noDollar _ ih => rw [List.length_modifyHead, ih, holesIn] <;> simp_all

theorem interleave_modifyHead (c : Char) {pieces : List (List Char)} (some : pieces ≠ [])
    (arguments : List (List Char)) :
    interleave (pieces.modifyHead (c :: ·)) arguments = c :: interleave pieces arguments := by
  cases pieces with
  | nil => exact absurd rfl some
  | cons piece others => cases arguments <;> rfl

/-- What stands in the holes: the first arguments, and dollar signs where there are too few. -/
def fillings (holes : Nat) (arguments : List (List Char)) : List (List Char) :=
  arguments.take holes ++ List.replicate (holes - arguments.length) ['$']

theorem fillings_of_length_eq {holes : Nat} {arguments : List (List Char)}
    (each : holes = arguments.length) : fillings holes arguments = arguments := by
  rw [fillings, each, List.take_length, Nat.sub_self, List.replicate_zero, List.append_nil]

theorem fillings_succ_cons (holes : Nat) (argument : List Char) (arguments : List (List Char)) :
    fillings (holes + 1) (argument :: arguments) = argument :: fillings holes arguments := by
  rw [fillings, List.take_succ_cons, List.length_cons, Nat.add_sub_add_right, List.cons_append,
    fillings]

theorem fillings_succ_nil (holes : Nat) :
    fillings (holes + 1) [] = ['$'] :: fillings holes [] := by
  simp [fillings, List.replicate_succ]

theorem piecesIn_ne_nil (cs : List Char) : piecesIn cs ≠ [] :=
  List.ne_nil_of_length_eq_add_one (length_piecesIn cs)

/-- Arguments are put in from the left, each in one place, and holes that are left over stay. -/
theorem fill_eq_interleave_fillings (cs : List Char) (arguments : List (List Char)) :
    fill cs arguments = interleave (piecesIn cs) (fillings (holesIn cs) arguments) := by
  fun_induction piecesIn cs generalizing arguments with
  | case1 => simp [fill, holesIn, fillings, interleave]
  | case2 rest ih => rw [fill, ih, holesIn, interleave_modifyHead _ (piecesIn_ne_nil rest)]
  | case3 rest single ih =>
    have more : holesIn ('$' :: rest) = holesIn rest + 1 := by rw [holesIn]; exact single
    cases arguments with
    | nil =>
      rw [more, fillings_succ_nil, fill, ih]
      · rfl
      · exact single
    | cons argument arguments =>
      rw [more, fillings_succ_cons, fill, ih]
      · rfl
      · exact single
  | case4 c rest noPair noDollar ih =>
    rw [fill, ih, holesIn, interleave_modifyHead _ (piecesIn_ne_nil rest)] <;> simp_all

/-- Where there is an argument for each hole, each stands in its place, and none is left over. -/
theorem fill_eq_interleave {cs : List Char} {arguments : List (List Char)}
    (each : holesIn cs = arguments.length) :
    fill cs arguments = interleave (piecesIn cs) arguments := by
  rw [fill_eq_interleave_fillings, fillings_of_length_eq each]

/-! ### Texts before templates -/

theorem escapeChars_append (cs others : List Char) :
    escapeChars (cs ++ others) = escapeChars cs ++ escapeChars others := by
  fun_induction escapeChars cs with
  | case1 => rfl
  | case2 rest ih => rw [List.cons_append, escapeChars, ih]; rfl
  | case3 c rest noDollar ih =>
    rw [List.cons_append, escapeChars, ih]
    · rfl
    · exact noDollar

theorem escape_append (text other : String) :
    escape (text ++ other) = escape text ++ escape other := by
  simp only [escape, Text.onChars, String.toList_append, escapeChars_append, String.ofList_append]

theorem fill_escapeChars_append (cs template : List Char) (arguments : List (List Char)) :
    fill (escapeChars cs ++ template) arguments = cs ++ fill template arguments := by
  fun_induction escapeChars cs with
  | case1 => rfl
  | case2 rest ih => rw [List.cons_append, List.cons_append, fill, ih, List.cons_append]
  | case3 c rest noDollar ih => rw [List.cons_append, fill, ih, List.cons_append] <;> simp_all

theorem piecesIn_escapeChars_append (cs template : List Char) :
    piecesIn (escapeChars cs ++ template) = (piecesIn template).modifyHead (cs ++ ·) := by
  fun_induction escapeChars cs with
  | case1 => exact (congrFun List.modifyHead_id (piecesIn template)).symm
  | case2 rest ih =>
    rw [List.cons_append, List.cons_append, piecesIn, ih, List.modifyHead_modifyHead]
    rfl
  | case3 c rest noDollar ih =>
    rw [List.cons_append, piecesIn, ih, List.modifyHead_modifyHead]
    · rfl
    · simp_all
    · simp_all

/-- A text without dollar signs is the template that says it. -/
theorem escape_of_not_mem {text : String} (plain : '$' ∉ text.toList) : escape text = text := by
  have same (cs : List Char) (absent : '$' ∉ cs) : escapeChars cs = cs := by
    fun_induction escapeChars cs with
    | case1 => rfl
    | case2 rest => exact absurd (List.mem_cons_self ..) absent
    | case3 c rest noDollar ih => rw [ih (List.not_mem_of_not_mem_cons absent)]
  rw [escape, Text.onChars, same _ plain, String.ofList_toList]

/-- What a text says before a template stands before what the template says. -/
theorem substitute_escape_append (text template : String) (arguments : List String) :
    substitute (escape text ++ template) arguments = text ++ substitute template arguments := by
  rw [substitute, String.toList_append, escape, Text.onChars, String.toList_ofList,
    fill_escapeChars_append, String.ofList_append, String.ofList_toList, substitute]

theorem holes_escape_append (text template : String) :
    holes (escape text ++ template) = holes template := by
  have same := congrArg List.length (piecesIn_escapeChars_append text.toList template.toList)
  rw [length_piecesIn, List.length_modifyHead, length_piecesIn] at same
  rw [holes, String.toList_append, escape, Text.onChars, String.toList_ofList, holes]
  exact Nat.add_right_cancel same

/-- A text that stands for itself has no holes. -/
theorem holes_escape (text : String) : holes (escape text) = 0 := by
  have none := holes_escape_append text ""
  rw [String.append_empty] at none
  exact none

/-- A text that stands for itself is filled with nothing and comes back. -/
theorem substitute_escape (text : String) : substitute (escape text) [] = text := by
  have said := substitute_escape_append text "" []
  rw [String.append_empty] at said
  exact said.trans String.append_empty

/-! ### Templates as texts around holes -/

/-- The template that says some texts, with a hole between any two. -/
def around (pieces : List (List Char)) : List Char := ['$'].intercalate (pieces.map escapeChars)

/-- Whether no hole stands right before a dollar sign, with which it would be read as one. -/
def AreApart : List (List Char) → Prop
  | [] => False
  | [_] => True
  | _ :: piece :: others => (around (piece :: others)).head? ≠ some '$' ∧ AreApart (piece :: others)

theorem around_cons (piece : List Char) {others : List (List Char)} (more : others ≠ []) :
    around (piece :: others) = escapeChars piece ++ '$' :: around others := by
  rw [around, List.map_cons, List.intercalate_cons_of_ne_nil (mt List.map_eq_nil_iff.mp more),
    around, List.append_assoc, List.singleton_append]

theorem around_modifyHead (cs : List Char) {pieces : List (List Char)} (some : pieces ≠ []) :
    around (pieces.modifyHead (cs ++ ·)) = escapeChars cs ++ around pieces := by
  match pieces with
  | [piece] => simp [around, escapeChars_append]
  | piece :: other :: others =>
    have more := List.cons_ne_nil other others
    rw [List.modifyHead_cons, around_cons _ more, around_cons _ more, escapeChars_append,
      List.append_assoc]

theorem around_piecesIn (cs : List Char) : around (piecesIn cs) = cs := by
  fun_induction piecesIn cs with
  | case1 => rfl
  | case2 rest ih =>
    have said := around_modifyHead ['$'] (piecesIn_ne_nil rest)
    rw [ih] at said
    exact said
  | case3 rest single ih =>
    rw [around_cons _ (piecesIn_ne_nil rest), ih]
    rfl
  | case4 c rest noPair noDollar ih =>
    have said := around_modifyHead [c] (piecesIn_ne_nil rest)
    rw [ih, escapeChars] at said
    · exact said
    · exact noDollar

theorem areApart_modifyHead (f : List Char → List Char) {pieces : List (List Char)} :
    AreApart (pieces.modifyHead f) ↔ AreApart pieces := by
  match pieces with
  | [] => rfl
  | [_] => rfl
  | _ :: _ :: _ => rfl

theorem areApart_piecesIn (cs : List Char) : AreApart (piecesIn cs) := by
  fun_induction piecesIn cs with
  | case1 => trivial
  | case2 rest ih => exact (areApart_modifyHead _).mpr ih
  | case3 rest single ih =>
    obtain ⟨piece, others, same⟩ := List.exists_cons_of_ne_nil (piecesIn_ne_nil rest)
    rw [same] at ih ⊢
    refine ⟨?_, ih⟩
    -- A dollar sign here would have made a pair with the one before it.
    rw [← same, around_piecesIn]
    intro dollar
    obtain ⟨later, begins⟩ := List.head?_eq_some_iff.mp dollar
    exact single later begins
  | case4 c rest noPair noDollar ih => exact (areApart_modifyHead _).mpr ih

/-- A template has one reading: texts around holes give it only if they are its pieces. -/
theorem eq_piecesIn {pieces : List (List Char)} (apart : AreApart pieces) :
    pieces = piecesIn (around pieces) := by
  -- The scanner pairs dollar signs from the left, so the first text is split off first.
  induction pieces with
  | nil => exact apart.elim
  | cons piece others ih =>
    cases others with
    | nil =>
      have alone := piecesIn_escapeChars_append piece []
      simpa [around, piecesIn] using alone.symm
    | cons other others =>
      obtain ⟨noDollar, later⟩ := apart
      rw [around_cons _ (List.cons_ne_nil other others), piecesIn_escapeChars_append, piecesIn,
        ← ih later]
      · simp
      · rintro rest begins
        exact noDollar (by rw [begins]; rfl)

/-- Whether a template says these texts around its holes, and reads so from the left. -/
structure SaysAround (template : String) (pieces : List (List Char)) : Prop where
  said : around pieces = template.toList
  apart : AreApart pieces

theorem saysAround_iff {template : String} {pieces : List (List Char)} :
    SaysAround template pieces ↔ pieces = piecesIn template.toList := by
  constructor
  · rintro ⟨said, apart⟩
    rw [← said]
    exact eq_piecesIn apart
  · rintro rfl
    exact ⟨around_piecesIn _, areApart_piecesIn _⟩

/-- A text whose dollar signs are doubled comes back before whatever the rest of a template says.
And a template says the same texts around its holes whatever it is filled with: as many arguments
as there are holes stand between them, each once and in order, and the holes that are left over are
dollar signs. -/
theorem substitute_in_order :
    (∀ (text template : String) (arguments : List String),
      substitute (escape text ++ template) arguments = text ++ substitute template arguments) ∧
    ∀ template : String, ∃ pieces,
      (∀ others, SaysAround template others ↔ others = pieces) ∧
      pieces.length = holes template + 1 ∧
      ∀ arguments : List String,
        (substitute template arguments).toList = interleave pieces
          ((arguments.take (min (holes template) arguments.length)).map String.toList ++
            List.replicate (holes template - arguments.length) ['$']) := by
  refine ⟨substitute_escape_append, fun template => ⟨piecesIn template.toList,
    fun _ => saysAround_iff, length_piecesIn _, fun arguments => ?_⟩⟩
  rw [substitute, String.toList_ofList, fill_eq_interleave_fillings, fillings, List.length_map,
    ← List.map_take, ← List.take_eq_take_min, holes]

end Companion.Template

import Companion.Proofs.Code.Identifiers
import Companion.Proofs.Config.FileNames
import Companion.Proofs.Files.Path
import Companion.Proofs.Model.Methods

/-! Which names of a model are identifiers to the letter.

A checked name is one identifier with blanks and comments around it. Where it has neither, it can
be part of longer names.
-/

set_option autoImplicit false

namespace Companion

namespace Code

open Lexer
open Unicode (isIdentifierContinue)

variable {text name : String}

/-- Nothing in the text stands beside a token: no blank, no comment, no byte order mark. -/
def IsTight (text : String) : Prop :=
  ∀ c ∈ text.toList, isSpace c = false ∧ c ≠ '/' ∧ c.toNat ≠ 0xFEFF

theorem IsTight.isBare (tight : IsTight text) : IsBare text := fun c member => (tight c member).2

/-- A text without blanks and comments is the identifier that is read from it. -/
theorem eq_of_ident? (tight : IsTight text) (found : ident? text = some name) : name = text := by
  obtain ⟨-, before, after, split, spaces, spaces', -⟩ := pads_of_ident? tight.isBare found
  have absent (cs : List Char) (among : ∀ c ∈ cs, c ∈ text.toList)
      (blank : ∀ c ∈ cs, isSpace c = true) : cs = [] := by
    refine List.eq_nil_iff_forall_not_mem.mpr fun c member => ?_
    have visible := (tight c (among c member)).1
    rw [blank c member] at visible
    cases visible
  rw [absent before (by simp +contextual [split]) spaces,
    absent after (by simp +contextual [split]) spaces', List.nil_append, List.append_nil] at split
  exact String.toList_injective split.symm

namespace Lexer

theorem IsWord.continues {word : List Char} (letters : IsWord word) :
    ∀ c ∈ word, isIdentifierContinue c = true := by
  cases word with
  | nil => exact letters.elim
  | cons c more =>
    exact List.forall_mem_cons.mpr
      ⟨Unicode.isIdentifierContinue_of_isIdentifierStart letters.1, letters.2⟩

theorem IsName.continues {name : List Char} (named : IsName name) :
    ∀ c ∈ name, isIdentifierContinue c = true ∨ c = '#' := by
  cases named with
  | plain letters => exact fun c member => .inl (letters.continues c member)
  | raw letters =>
    intro c member
    rcases List.mem_cons.mp member with rfl | member
    · exact .inl (by decide)
    · rcases List.mem_cons.mp member with rfl | member
      · exact .inr rfl
      · exact .inl (letters.continues c member)

/-- A word with more letters before or behind it is a word. -/
theorem IsWord.between {front word back : List Char} (letters : IsWord word)
    (opens : front = [] ∨ IsWord front) (goesOn : ∀ c ∈ back, isIdentifierContinue c = true) :
    IsWord (front ++ word ++ back) := by
  have rest : ∀ c ∈ word ++ back, isIdentifierContinue c = true := by
    intro c member
    exact (List.mem_append.mp member).elim (letters.continues c) (goesOn c)
  rw [List.append_assoc]
  cases front with
  | nil =>
    obtain ⟨c, more, rfl⟩ := List.exists_cons_of_ne_nil letters.ne_nil
    exact ⟨letters.1, fun d member => rest d (List.mem_cons_of_mem c member)⟩
  | cons c front =>
    obtain ⟨start, more⟩ := opens.resolve_left nofun
    refine ⟨start, fun d member => ?_⟩
    exact (List.mem_append.mp member).elim (more d) (rest d)

end Lexer

theorem isTight_of_isName (named : IsName text.toList) : IsTight text := by
  intro c member
  rcases named.continues c member with goesOn | rfl
  · refine ⟨?_, ?_, ?_⟩
    · by_contra space
      rw [not_isIdentifierContinue_of_isSpace (Bool.not_eq_false _ ▸ space)] at goesOn
      cases goesOn
    · rintro rfl
      cases goesOn
    · intro mark
      rw [Unicode.isIdentifierContinue_of_unwritten (by rw [mark]; decide)] at goesOn
      cases goesOn
  · decide

/-- An identifier is its text to the letter exactly if neither blanks nor comments are in that. -/
theorem tokens_eq_ident_iff (checked : isIdent text = true) :
    Lexer.tokens text.toList = some [.ident text] ↔ IsTight text := by
  obtain ⟨name, found⟩ := exists_ident? checked
  constructor
  · intro lexed
    exact isTight_of_isName (tokens_areNamed lexed (.ident text) (List.mem_singleton_self _))
  · intro tight
    have same := eq_of_ident? tight found
    rw [same] at found
    exact tokens_of_ident? found

/-! ### Longer names -/

theorem not_mem_reserved_of_ident? (found : ident? text = some name) : name ∉ Tree.reserved := by
  intro member
  have read : ident? text = none := by
    simp [ident?, parse?, tokens_of_ident? found, Tree.ofTokens, Tree.closeGroups, Reader.all?,
      Reader.ident, member]
  rw [read] at found
  cases found

theorem tokens_of_isWord (letters : IsWord text.toList) :
    Lexer.tokens text.toList = some [.ident text] := by
  have lexed : Lexes text.toList [] [.ident (String.ofList text.toList)] := by
    have ends : EndsName [] := trivial
    exact .of_step letters.ne_nil (step_name (.plain letters) ends)
  rw [String.ofList_toList] at lexed
  exact lexed.whole (.name (.plain letters))

theorem isIdent_of_isWord (letters : IsWord text.toList) (free : text ∉ Tree.reserved) :
    isIdent text = true := by
  simp [isIdent, parse?, tokens_of_isWord letters, Tree.ofTokens, Tree.closeGroups, Reader.all?,
    Reader.ident, free]

/-- A name that is neither reserved nor written raw, and stays one in longer names. -/
structure IsPlain (name : String) : Prop where
  free : name ∉ Tree.reserved
  notRaw : Text.startsWith "r#" name = false
  between : ∀ front back : String, (front = "" ∨ IsWord front.toList) →
    (∀ c ∈ back.toList, isIdentifierContinue c = true) →
    Lexer.tokens (front ++ name ++ back).toList = some [.ident (front ++ name ++ back)]
  setter : isIdent ("with_" ++ name) = true
  cache : isIdent (name ++ "_cache") = true

theorem isWord_of_isIdent (checked : isIdent text = true)
    (notRaw : Text.startsWith "r#" text = false) (tight : IsTight text) : IsWord text.toList := by
  have lexed := (tokens_eq_ident_iff checked).mpr tight
  have named : IsName text.toList :=
    tokens_areNamed lexed (.ident text) (List.mem_singleton_self _)
  generalize known : text.toList = cs at named
  cases named with
  | plain letters => exact letters
  | raw =>
    rw [Text.startsWith, known] at notRaw
    cases notRaw

theorem isPlain_of_isTight (checked : isIdent text = true)
    (notRaw : Text.startsWith "r#" text = false) (tight : IsTight text) : IsPlain text := by
  have letters := isWord_of_isIdent checked notRaw tight
  have word (front back : String) (opens : front = "" ∨ IsWord front.toList)
      (goesOn : ∀ c ∈ back.toList, isIdentifierContinue c = true) :
      IsWord (front ++ text ++ back).toList := by
    rw [String.toList_append, String.toList_append]
    exact letters.between (opens.imp_left String.toList_eq_nil_iff.mpr) goesOn
  have setterLetters : IsWord "with_".toList :=
    ⟨by decide, Chars.forall_mem_of_all (by decide)⟩
  have cacheLetters : ∀ c ∈ "_cache".toList, isIdentifierContinue c = true :=
    Chars.forall_mem_of_all (by decide)
  refine ⟨?_, notRaw, fun front back opens goesOn => ?_, ?_, ?_⟩
  · obtain ⟨name, found⟩ := exists_ident? checked
    exact eq_of_ident? tight found ▸ not_mem_reserved_of_ident? found
  · exact tokens_of_isWord (word front back opens goesOn)
  · have longer := word "with_" "" (.inr setterLetters) (by simp)
    rw [String.append_empty] at longer
    refine isIdent_of_isWord longer fun member => ?_
    have apart : ∀ word ∈ Tree.reserved, ¬ "with_".toList <+: word.toList := by decide
    exact apart _ member (by simp)
  · have longer := word "" "_cache" (.inl rfl) cacheLetters
    rw [String.empty_append] at longer
    refine isIdent_of_isWord longer fun member => ?_
    have apart : ∀ word ∈ Tree.reserved, ¬ "_cache".toList <:+ word.toList := by decide
    exact apart _ member (by simp)

end Code

open Code

/-! ### Names of a model -/

namespace Model

variable {batch : Batch} {source : DeclarationSource} {d : Declaration} {l : Location}
  {maxCacheArity : Nat} {model : Model}

/-- The names that the parts of a model go by, each way. -/
def memberNames (m : Model) : List String :=
  m.fields.flatMap (fun f => f.name :: f.accessor.toList) ++
    m.methods.flatMap (fun method => method.name :: method.parameters.map (·.name))

/-- What is checked of a name that may be part of longer ones. -/
def IsChecked (name : String) : Prop :=
  Text.startsWith "r#" name = false ∧ isIdent name = true

theorem isChecked_of_checkIdentifier {name : String}
    (checked : (checkIdentifier l name).value = some ()) : IsChecked name := by
  unfold checkIdentifier at checked
  split at checked
  next valid => simpa [IsChecked] using valid
  next => cases checked

theorem isChecked_of_checkNames {name : String} {accessor : Option String}
    (checked : (checkNames l name accessor).value = some ()) :
    ∀ other ∈ name :: accessor.toList, IsChecked other := by
  unfold checkNames at checked
  split at checked
  next accessor =>
    split at checked
    next same =>
      have known := isChecked_of_checkIdentifier checked
      simpa [same] using known
    next =>
      rw [Checked.value_andThen, Option.bind_eq_some_iff] at checked
      obtain ⟨_, first, second⟩ := checked
      simpa using ⟨isChecked_of_checkIdentifier second, isChecked_of_checkIdentifier first⟩
  next => simpa using isChecked_of_checkIdentifier checked

theorem isChecked_of_checkField {member : Declaration.Member} {f : Field}
    (checked : (checkField batch l member).value = some f) :
    ∀ name ∈ f.name :: f.accessor.toList, IsChecked name :=
  isChecked_of_checkNames (isOf_of_checkField checked).names

theorem isChecked_of_checkParameter {method : String} {p : Declaration.Parameter}
    {checked : Parameter} (known : (checkParameter l method p).value = some checked) :
    IsChecked checked.name :=
  isChecked_of_checkIdentifier (isOf_of_checkParameter known).named

theorem isChecked_of_checkMethod {method : Declaration.Method} {m : Method}
    (checked : (checkMethod maxCacheArity l method).value = some m) :
    ∀ name ∈ m.name :: m.parameters.map (·.name), IsChecked name := by
  have isOf := isOf_of_checkMethod checked
  refine List.forall_mem_cons.mpr ⟨isChecked_of_checkIdentifier isOf.named, List.forall_mem_map.mpr fun p member => ?_⟩
  have listed : some p ∈ m.parameters.map some := List.mem_map_of_mem member
  rw [← isOf.parameters] at listed
  obtain ⟨_, -, known⟩ := List.mem_map.mp listed
  exact isChecked_of_checkParameter known

theorem isChecked_of_mem_memberNames (built : (ofDeclaration batch source d).value = some model) :
    ∀ name ∈ model.memberNames, IsChecked name := by
  intro name member
  rcases List.mem_append.mp member with member | member
  · obtain ⟨f, listed, among⟩ := List.mem_flatMap.mp member
    obtain ⟨_, _, checked⟩ := exists_checkField built listed
    exact isChecked_of_checkField checked name among
  · obtain ⟨m, listed, among⟩ := List.mem_flatMap.mp member
    obtain ⟨_, _, checked⟩ := exists_checkMethod built listed
    exact isChecked_of_checkMethod checked name among

theorem isIdent_of_ofDeclaration (built : (ofDeclaration batch source d).value = some model) :
    isIdent model.name = true := by
  have isOf := isOf_of_ofDeclaration built
  have named := isOf.named
  rw [isOf.name]
  unfold checkName at named
  split at named
  next valid => exact valid
  next => cases named

/-- Under the standard names the name of a file is one part of a path. -/
theorem isPart_fileName {name : String} (checked : isIdent name = true) (tight : IsTight name)
    (kind : ArtifactKind) : Path.IsPart (Naming.Scheme.standard.fileName name kind) := by
  have named : Lexer.IsName name.toList :=
    Lexer.tokens_areNamed ((tokens_eq_ident_iff checked).mpr tight) (.ident name)
      (List.mem_singleton_self _)
  have some : name ≠ "" := by
    rintro rfl
    obtain ⟨c, more, none, -⟩ := named.exists_start
    cases none
  have plain : '\x7b' ∉ name.toList := fun member =>
    absurd (named.continues _ member) (by decide)
  have suffix : '/' ∉ (Naming.Scheme.standard.suffix kind).toList := by cases kind <;> decide
  have pattern : '/' ∉ Naming.Scheme.standard.file.toList := by decide
  have slash := Naming.Scheme.slash_not_mem_fileName pattern suffix fun member =>
    (tight _ member).2.1 rfl
  have long : 2 < (Naming.Scheme.standard.fileName name kind).length := by
    have ends : ".rs".length = 3 := rfl
    rw [Naming.Scheme.fileName_standard some plain kind, String.length_append, ends]
    omega
  refine ⟨?_, slash, ?_⟩
  · intro none
    simp [none] at long
  · intro dot
    rw [dot] at long
    exact absurd long (by decide)

/-- Every name of a model is one identifier that is not reserved, with blanks, comments or a byte
order mark beside it or to the letter. To the letter, the names of members are no raw identifiers
either and can be part of longer names, and the name of a declaration puts its files into no other
directory. -/
theorem names_ofDeclaration (built : (ofDeclaration batch source d).value = some model) :
    (∀ name ∈ model.name :: model.memberNames,
      (∃ word, Lexer.tokens name.toList = some [.ident word] ∧ word ∉ Tree.reserved) ∧
        (Lexer.tokens name.toList = some [.ident name] ↔ IsTight name)) ∧
    (∀ name ∈ model.memberNames, IsTight name → IsPlain name) ∧
    (IsTight model.name → ∀ kind,
      Path.IsPart (Naming.Scheme.standard.fileName model.name kind) ∧
        ∀ scheme : Naming.Scheme, '/' ∉ scheme.file.toList → '/' ∉ (scheme.suffix kind).toList →
          '/' ∉ (scheme.fileName model.name kind).toList) := by
  have declared := isIdent_of_ofDeclaration built
  have members := isChecked_of_mem_memberNames built
  refine ⟨?_, fun name member => ?_, fun tight kind => ⟨isPart_fileName declared tight kind, ?_⟩⟩
  · have each : ∀ name ∈ model.name :: model.memberNames, isIdent name = true :=
      List.forall_mem_cons.mpr ⟨declared, fun name member => (members name member).2⟩
    intro name member
    have checked := each name member
    obtain ⟨word, found⟩ := exists_ident? checked
    exact ⟨⟨word, tokens_of_ident? found, not_mem_reserved_of_ident? found⟩,
      tokens_eq_ident_iff checked⟩
  · exact isPlain_of_isTight (members name member).2 (members name member).1
  · exact fun scheme pattern suffix =>
      Naming.Scheme.slash_not_mem_fileName pattern suffix fun member => (tight _ member).2.1 rfl

/-- A name with a blank is accepted, although it is not to the letter the identifier in it. -/
theorem names_ofDeclaration_padded :
    let padded : Declaration :=
      ⟨"Point", none, [], [], [⟨none, some " x", "i64", none, none, [], none⟩], [], none⟩
    ∃ model, (ofDeclaration default default padded).value = some model ∧
      " x" ∈ model.memberNames ∧
        Lexer.tokens " x".toList = some [.ident "x"] ∧
          Lexer.tokens " x".toList ≠ some [.ident " x"] := by
  intro padded
  have known : ((ofDeclaration default default padded).value.map memberNames) = some [" x"] := by
    decide +kernel
  obtain ⟨model, built, same⟩ := Option.map_eq_some_iff.mp known
  have member : " x" ∈ model.memberNames := by simp [same]
  have named := (names_ofDeclaration built).1 " x" (List.mem_cons_of_mem _ member)
  refine ⟨model, built, member, by decide +kernel, fun exact => ?_⟩
  exact absurd (named.2.mp exact ' ' (by simp)).1 (by decide)

end Model

end Companion

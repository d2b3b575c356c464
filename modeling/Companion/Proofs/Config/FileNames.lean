import Companion.Config.Basic
import Companion.Proofs.Declaration.Canonical

/-! Which units share a file under the standard names. -/

set_option autoImplicit false

namespace Companion

/-! ### Characters of names that are made from others -/

theorem Chars.not_mem_replaceFrom {c : Char} {pattern replacement cs : List Char}
    (absent : c ∉ replacement) (plain : c ∉ cs) (skip : Nat) :
    c ∉ replaceFrom pattern replacement cs skip := by
  induction cs generalizing skip with
  | nil => cases skip <;> exact List.not_mem_nil
  | cons d cs ih =>
    rw [List.mem_cons, not_or] at plain
    have later := ih plain.2
    cases skip with
    | succ skip => exact later skip
    | zero =>
      rw [replaceFrom]
      split
      · exact fun member => (List.mem_append.mp member).elim absent (later _)
      · exact List.not_mem_cons_of_ne_of_not_mem plain.1 (later 0)

theorem Text.not_mem_replaceAll {c : Char} {pattern replacement text : String}
    (absent : c ∉ replacement.toList) (plain : c ∉ text.toList) :
    c ∉ (Text.replaceAll pattern replacement text).toList := by
  rw [Text.replaceAll, Text.onChars, String.toList_ofList]
  exact Chars.not_mem_replaceFrom absent plain 0

namespace Naming

/-- Only small ASCII letters are made from other characters. -/
theorem toLower_ne {c d : Char} (large : ¬(97 ≤ d.toNat ∧ d.toNat ≤ 122)) (plain : c ≠ d) :
    c.toLower ≠ d := by
  intro same
  unfold Char.toLower at same
  split at same
  · next upper =>
    have lower : 65 ≤ c.val.toNat := UInt32.le_iff_toNat_le.mp upper.1
    have small : c.val.toNat ≤ 90 := UInt32.le_iff_toNat_le.mp upper.2
    have value := congrArg (fun d => d.val.toNat) same
    simp only [UInt32.toNat_add] at value
    change (c.val.toNat + 32) % 4294967296 = d.toNat at value
    omega
  · exact plain same

/-- The characters that are not first, in small letters. -/
def snakeTail (cs : List Char) : List Char :=
  cs.flatMap fun d => if d.isUpper then ['_', d.toLower] else [d]

theorem not_mem_snakeTail {c : Char} {cs : List Char} (large : ¬(97 ≤ c.toNat ∧ c.toNat ≤ 122))
    (mark : c ≠ '_') (plain : c ∉ cs) : c ∉ snakeTail cs := by
  intro member
  obtain ⟨d, inside, made⟩ := List.mem_flatMap.mp member
  have other : d ≠ c := fun same => plain (same ▸ inside)
  split at made
  · have lower := toLower_ne large other
    simp [mark] at made
    exact lower made.symm
  · exact other (List.mem_singleton.mp made).symm

theorem snakeChars_append {cs : List Char} (nonempty : cs ≠ []) (others : List Char) :
    snakeChars (cs ++ others) = snakeChars cs ++ snakeTail others := by
  cases cs with
  | nil => exact absurd rfl nonempty
  | cons c cs => simp [snakeChars, snakeTail]

theorem not_mem_snakeChars {c : Char} {cs : List Char} (large : ¬(97 ≤ c.toNat ∧ c.toNat ≤ 122))
    (mark : c ≠ '_') (plain : c ∉ cs) : c ∉ snakeChars cs := by
  cases cs with
  | nil => exact List.not_mem_nil
  | cons d cs =>
    rw [List.mem_cons, not_or] at plain
    have tail := not_mem_snakeTail large mark plain.2
    have first := toLower_ne large (Ne.symm plain.1)
    simp only [snakeChars, List.mem_cons, not_or]
    exact ⟨Ne.symm first, tail⟩

namespace Scheme

/-- No slash comes into the name of a file but from the scheme or the name of the declaration. -/
theorem slash_not_mem_fileName {scheme : Scheme} {name : String} {kind : ArtifactKind}
    (pattern : '/' ∉ scheme.file.toList) (suffix : '/' ∉ (scheme.suffix kind).toList)
    (plain : '/' ∉ name.toList) : '/' ∉ (scheme.fileName name kind).toList := by
  have output : '/' ∉ (scheme.outputName name kind).toList := by
    rw [outputName, String.toList_append, List.mem_append, not_or]
    exact ⟨plain, suffix⟩
  have snake : '/' ∉ (snakeCase (scheme.outputName name kind)).toList := by
    rw [snakeCase, Text.onChars, String.toList_ofList]
    exact not_mem_snakeChars (by decide) (by decide) output
  have kinds : '/' ∉ kind.name.toList := by cases kind <;> decide
  exact Text.not_mem_replaceAll kinds (Text.not_mem_replaceAll plain
    (Text.not_mem_replaceAll output (Text.not_mem_replaceAll snake pattern)))

theorem snakeTail_suffix (kind : ArtifactKind) :
    snakeTail (standard.suffix kind).toList = '_' :: kind.name.toList := by
  cases kind <;> decide

/-- Under the standard names a file is named by the declaration's name in small letters and by the
kind of the unit. -/
theorem fileName_standard {name : String} (named : name ≠ "") (plain : '\x7b' ∉ name.toList)
    (kind : ArtifactKind) :
    standard.fileName name kind = snakeCase name ++ "_" ++ kind.name ++ ".rs" := by
  have snake : snakeCase (standard.outputName name kind) = snakeCase name ++ "_" ++ kind.name := by
    refine String.toList_injective ?_
    have nonempty : name.toList ≠ [] := by simpa using named
    simp only [snakeCase, Text.onChars, outputName, String.toList_ofList, String.toList_append,
      snakeChars_append nonempty, snakeTail_suffix]
    simp
  have filled : Text.replaceAll snakeHole (snakeCase name ++ "_" ++ kind.name) standard.file =
      snakeCase name ++ "_" ++ kind.name ++ ".rs" := by
    refine String.toList_injective ?_
    simp [Text.replaceAll, Text.onChars, snakeHole, standard, Chars.replaceAll, Chars.replaceFrom]
  -- Without an opening brace no other hole can be found in it.
  have closed : '\x7b' ∉ (snakeCase name ++ "_" ++ kind.name ++ ".rs").toList := by
    have first := not_mem_snakeChars (by decide) (by decide) plain
    have others : '\x7b' ∉ ("_" ++ kind.name ++ ".rs").toList := by cases kind <;> decide
    simp only [snakeCase, Text.onChars, String.toList_append, String.toList_ofList,
      List.mem_append, not_or] at others ⊢
    exact ⟨⟨⟨first, others.1.1⟩, others.1.2⟩, others.2⟩
  calc standard.fileName name kind
      = Text.replaceAll kindHole kind.name (Text.replaceAll declarationHole name
          (Text.replaceAll nameHole (standard.outputName name kind)
            (Text.replaceAll snakeHole (snakeCase (standard.outputName name kind))
              standard.file))) := rfl
    _ = snakeCase name ++ "_" ++ kind.name ++ ".rs" := by
      rw [snake, filled, Text.replaceAll_of_not_mem (by rfl) closed,
        Text.replaceAll_of_not_mem (by rfl) closed, Text.replaceAll_of_not_mem (by rfl) closed]

/-- Under the standard names two units share a file exactly if they are of one kind and the names
of their declarations agree in small letters. -/
theorem fileName_standard_eq_iff {name other : String} (named : name ≠ "") (named' : other ≠ "")
    (plain : '\x7b' ∉ name.toList) (plain' : '\x7b' ∉ other.toList) (kind kind' : ArtifactKind) :
    standard.fileName name kind = standard.fileName other kind' ↔
      kind = kind' ∧ snakeCase name = snakeCase other := by
  rw [fileName_standard named plain, fileName_standard named' plain']
  constructor
  · intro same
    have lists := congrArg String.toList same
    have mark : "_".toList = ['_'] := rfl
    have apart (kind : ArtifactKind) : '_' ∉ kind.name.toList := by cases kind <;> decide
    simp only [String.toList_append, List.append_assoc, mark, List.cons_append, List.nil_append]
      at lists
    obtain ⟨names, kinds⟩ := ArtifactKind.append_name_inj apart lists
    exact ⟨kinds, String.toList_injective names⟩
  · rintro ⟨rfl, same⟩
    rw [same]

example : snakeCase "FooBar" = snakeCase "fooBar" := by decide +kernel

end Scheme

end Naming

end Companion

import Companion.Files.Tree
import Companion.Proofs.Results
import Companion.Proofs.Text.Dictionary

/-! What is written into a tree of files is read there. -/

set_option autoImplicit false

namespace Companion.FileTree

variable {t : FileTree} {place final : Place} {e : Option FileEntry}

theorem entry?_put (e : FileEntry) (other : Place) :
    entry? (t.put final e) other =
      if other ≠ [] ∧ key other = key final then some e else t.entry? other := by
  unfold entry? put
  simp only [List.isEmpty_iff, Dictionary.get?_insert]
  by_cases root : other = []
  · simp [root]
  · by_cases same : key other = key final <;> simp [root, same]

/-- A path goes on at the same place, at the one above, or at an entry of it, beyond which it only
leads if that is a directory. -/
theorem follow_cons_iff {step : String} {others : List String} :
    t.follow place (step :: others) = .ok (final, e) ↔
      if isIdle step = true then t.follow place others = .ok (final, e)
      else if step = ".." then place ≠ [] ∧ t.follow place.dropLast others = .ok (final, e)
      else if t.entry? (place ++ [step]) = some .directory then
        t.follow (place ++ [step]) others = .ok (final, e)
      else others = [] ∧ place ++ [step] = final ∧ t.entry? (place ++ [step]) = e := by
  rw [follow]
  split
  · rfl
  · split
    · cases place <;> simp
    · simp only
      split
      · next known => simp [known]
      · next text known => cases others <;> simp [known]
      · next known => cases others <;> simp [known]

theorem follow_eq_entry? {names : List String} (followed : t.follow place names = .ok (final, e)) :
    e = t.entry? final := by
  induction names generalizing place with
  | nil =>
    cases followed
    rfl
  | cons step others ih =>
    rw [follow_cons_iff] at followed
    split at followed
    · exact ih followed
    · split at followed
      · exact ih followed.2
      · split at followed
        · exact ih followed
        · obtain ⟨-, rfl, rfl⟩ := followed
          rfl

/-- What is put where a path leads is found there. The directories on the way are other places, since
no directory is at the end of it. -/
theorem follow_put {names : List String} (text : String)
    (followed : t.follow place names = .ok (final, e)) (other : e ≠ some .directory) :
    (t.put final (.file text)).follow place names = .ok (final, some (.file text)) := by
  obtain rfl := follow_eq_entry? followed
  have inside : final ≠ [] := by
    rintro rfl
    exact other rfl
  have known : entry? (t.put final (.file text)) final = some (.file text) := by
    rw [entry?_put, if_pos ⟨inside, rfl⟩]
  have way (next : Place) (directory : t.entry? next = some .directory) :
      entry? (t.put final (.file text)) next = some .directory := by
    rw [entry?_put, if_neg, directory]
    rintro ⟨some, same⟩
    simp [some, inside, entry?] at directory other
    exact other (same ▸ directory)
  induction names generalizing place with
  | nil =>
    cases followed
    rw [follow, known]
  | cons step others ih =>
    rw [follow_cons_iff] at followed ⊢
    split
    · next idle => exact ih (by rwa [if_pos idle] at followed)
    · next idle =>
      rw [if_neg idle] at followed
      split
      · next back =>
        rw [if_pos back] at followed
        exact ⟨followed.1, ih followed.2⟩
      · next back =>
        rw [if_neg back] at followed
        split at followed
        · next directory =>
          rw [if_pos (way _ directory)]
          exact ih followed
        · obtain ⟨rfl, rfl, -⟩ := followed
          rw [known, if_neg nofun]
          exact ⟨rfl, rfl, rfl⟩

theorem read_write {t' : FileTree} {path text : String} (written : t.write path text = .ok t') :
    t'.read path = .ok text := by
  obtain ⟨⟨final, e⟩, resolved, wrote⟩ := bind_eq_ok.mp written
  have known : (t.put final (.file text)).resolve path = .ok (final, some (.file text)) ∧
      t' = t.put final (.file text) := by
    unfold resolve at resolved ⊢
    split at resolved
    · cases resolved
    · next relative =>
      rw [if_neg relative]
      have other : e ≠ some .directory := by
        rintro rfl
        cases wrote
      refine ⟨follow_put text resolved other, ?_⟩
      rcases e with _ | _ | _ <;> cases wrote
      · rfl
      · rfl
  obtain ⟨resolved', rfl⟩ := known
  rw [read, resolved']
  rfl

theorem isSome_kind?_of_read {path text : String} (holds : t.read path = .ok text) :
    (t.kind? path).isSome = true := by
  obtain ⟨⟨final, e⟩, resolved, given⟩ := bind_eq_ok.mp holds
  rw [kind?, resolved]
  rcases e with _ | _ | _
  · cases given
  · rfl
  · rfl

end Companion.FileTree

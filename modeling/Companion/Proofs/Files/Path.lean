import Companion.Files.Path
import Companion.Proofs.Text.Basic

/-! Which paths lie in which directories, by the parts of paths.

The text of a path is its start and a rest that holds the parts. What is cut off at a slash leaves a
path with the same start.
-/

set_option autoImplicit false

namespace Companion.Path

/-- Whether a path leads through a directory, or is that directory. -/
def Within (dir path : String) : Prop := components dir <+: components path

instance (dir path : String) : Decidable (Within dir path) := by
  unfold Within
  infer_instance

/-! ### Parts -/

/-- The parts after the start. -/
def parts (rest : List Char) : List (List Char) :=
  (Chars.splitAll '/' rest).filter fun part => part ≠ [] ∧ part ≠ ['.']

/-- The start among the components. -/
def lead (start : List Char) : List (List Char) := if start.isEmpty then [] else [start]

theorem components_eq {path : String} {start rest : List Char}
    (known : split path.toList = (start, rest)) :
    components path = (lead start ++ parts rest).map String.ofList := by
  unfold components
  rw [known]
  rfl

theorem parts_append (front back : List Char) :
    parts (front ++ '/' :: back) = parts front ++ parts back := by
  rw [parts, Chars.splitAll_append, List.filter_append]
  rfl

theorem parts_reverse (rest : List Char) :
    parts rest.reverse = ((parts rest).map List.reverse).reverse := by
  have same (part : List Char) : part.reverse = ['.'] ↔ part = ['.'] := List.reverse_eq_iff
  rw [parts, Chars.splitAll_reverse, List.filter_reverse, List.filter_map, parts]
  simp [Function.comp_def, same]

/-- What is dropped in front is no part. -/
theorem parts_dropFront (cs : List Char) : parts (dropFront cs) = parts cs := by
  fun_induction dropFront cs with
  | case1 rest ih => exact ih.trans (parts_append [] rest).symm
  | case2 rest ih => exact ih.trans (parts_append ['.'] rest).symm
  | case3 => rfl
  | case4 => rfl

theorem parts_dropBack (cs : List Char) : parts (dropBack cs) = parts cs := by
  rw [dropBack, parts_reverse, parts_dropFront, ← parts_reverse, List.reverse_reverse]

/-! ### Cutting at slashes -/

/-- Whether a text begins at the end of a part. -/
def EndsPart (cs : List Char) : Prop := cs = [] ∨ ∃ rest, cs = '/' :: rest

/-- What is dropped in front is nothing, or all, or ends in a slash. -/
theorem exists_dropFront (cs : List Char) :
    ∃ front, cs = front ++ dropFront cs ∧ (dropFront cs = [] ∨ EndsPart front.reverse) := by
  fun_induction dropFront cs with
  | case1 rest ih =>
    obtain ⟨front, known, cut⟩ := ih
    refine ⟨'/' :: front, congrArg _ known, cut.imp_right ?_⟩
    rintro (none | ⟨others, known⟩)
    · exact .inr ⟨[], by simp [none]⟩
    · exact .inr ⟨others ++ ['/'], by simp [known]⟩
  | case2 rest ih =>
    obtain ⟨front, known, cut⟩ := ih
    refine ⟨'.' :: '/' :: front, congrArg (['.', '/'] ++ ·) known, cut.imp_right ?_⟩
    rintro (none | ⟨others, known⟩)
    · exact .inr ⟨['.'], by simp [none]⟩
    · exact .inr ⟨others ++ ['/', '.'], by simp [known]⟩
  | case3 => exact ⟨['.'], rfl, .inl rfl⟩
  | case4 cs => exact ⟨[], rfl, .inr (.inl rfl)⟩

theorem exists_dropBack (cs : List Char) :
    ∃ back, cs = dropBack cs ++ back ∧ (dropBack cs = [] ∨ EndsPart back) := by
  obtain ⟨front, known, cut⟩ := exists_dropFront cs.reverse
  refine ⟨front.reverse, ?_, cut.imp_left List.reverse_eq_nil_iff.mpr⟩
  rw [dropBack, ← List.reverse_append, ← known, List.reverse_reverse]

theorem dropFront_ne_slash (cs rest : List Char) : dropFront cs ≠ '/' :: rest := by
  fun_induction dropFront cs with
  | case1 _ ih => exact ih
  | case2 _ ih => exact ih
  | case3 => nofun
  | case4 cs other => exact fun same => other rest same

/-- Behind a slash at the end something is dropped. -/
theorem ne_nil_of_dropBack {cs back : List Char} (slash : ∃ front, cs = front ++ ['/'])
    (known : cs = dropBack cs ++ back) : back ≠ [] := by
  rintro rfl
  obtain ⟨front, rfl⟩ := slash
  rw [List.append_nil, dropBack, ← List.reverse_eq_iff, List.reverse_append] at known
  exact dropFront_ne_slash _ _ known.symm

/-! ### Starts -/

/-- What a path starts from, before a rest. -/
inductive Starts : List Char → List Char → Prop
  | root (rest : List Char) : Starts ['/'] rest
  | dot {rest : List Char} (ends : EndsPart rest) : Starts ['.'] rest
  | none {rest : List Char} (noRoot : ∀ others, rest ≠ '/' :: others)
    (noDot : ∀ others, rest = '.' :: others → ¬EndsPart others) : Starts [] rest

theorem split_eq_iff {path start rest : List Char} :
    split path = (start, rest) ↔ path = start ++ rest ∧ Starts start rest := by
  constructor
  · intro known
    unfold split at known
    split at known <;> cases known
    · exact ⟨rfl, .root _⟩
    · exact ⟨rfl, .dot (.inl rfl)⟩
    · exact ⟨rfl, .dot (.inr ⟨_, rfl⟩)⟩
    · next root dot under =>
      refine ⟨rfl, .none root ?_⟩
      rintro others rfl (rfl | ⟨more, rfl⟩)
      · exact dot rfl
      · exact under more rfl
  · rintro ⟨rfl, starts⟩
    cases starts with
    | root => rfl
    | dot ends => obtain rfl | ⟨others, rfl⟩ := ends <;> rfl
    | none noRoot noDot =>
      rw [List.nil_append]
      unfold split
      split
      · next others => exact absurd rfl (noRoot others)
      · exact absurd (.inl rfl) (noDot [] rfl)
      · next others => exact absurd (.inr ⟨others, rfl⟩) (noDot _ rfl)
      · rfl

theorem exists_starts (path : List Char) : ∃ start rest, path = start ++ rest ∧ Starts start rest :=
  ⟨_, _, split_eq_iff.mp rfl⟩

/-- A path that is cut at the end of a part starts as before. -/
theorem Starts.cut {start front back : List Char} (starts : Starts start (front ++ back))
    (ends : front = [] ∨ EndsPart back) : Starts start front := by
  cases front with
  | nil => cases starts with
    | root => exact .root _
    | dot => exact .dot (.inl rfl)
    | none => exact .none nofun nofun
  | cons c front => cases starts with
    | root => exact .root _
    | dot known =>
      obtain none | ⟨others, same⟩ := known
      · cases none
      · exact .dot (.inr ⟨front, congrArg (· :: front) (List.cons.inj same).1⟩)
    | none noRoot noDot =>
      refine .none (fun others same => noRoot (others ++ back) (by simp [same])) ?_
      intro others same known
      refine noDot (others ++ back) (by simp [same]) ?_
      obtain rfl | ⟨more, rfl⟩ := known
      · exact ends.resolve_left nofun
      · exact .inr ⟨more ++ back, rfl⟩

/-- A path that goes on after a slash starts as before. -/
theorem Starts.extend {start rest : List Char} (starts : Starts start rest)
    (some : start ++ rest ≠ []) (back : List Char) : Starts start (rest ++ '/' :: back) := by
  cases starts with
  | root => exact .root _
  | dot ends => obtain rfl | ⟨others, rfl⟩ := ends <;> exact .dot (.inr ⟨_, rfl⟩)
  | none noRoot noDot =>
    cases rest with
    | nil => exact absurd rfl some
    | cons c rest =>
      refine .none (fun others same => noRoot rest (by simp [(List.cons.inj same).1])) ?_
      rintro others same known
      obtain ⟨rfl, following⟩ := List.cons.inj same
      refine noDot rest rfl ?_
      cases rest with
      | nil => exact .inl rfl
      | cons d rest =>
        obtain rfl | ⟨more, rfl⟩ := known
        · cases following
        · exact .inr ⟨rest, congrArg (· :: rest) (List.cons.inj following).1⟩

theorem components_of_starts {path : String} {start rest : List Char}
    (known : path.toList = start ++ rest) (starts : Starts start rest) :
    components path = (lead start ++ parts rest).map String.ofList :=
  components_eq (split_eq_iff.mpr ⟨known, starts⟩)

/-! ### Joining -/

theorem within_refl (path : String) : Within path path := List.prefix_refl _

theorem Within.trans {dir between path : String} (first : Within dir between)
    (second : Within between path) : Within dir path :=
  List.IsPrefix.trans first second

theorem components_empty : components "" = [] := by decide

theorem within_empty (path : String) : Within "" path := by
  rw [Within, components_empty]
  exact List.nil_prefix

/-- The components of a path that goes on after a slash. -/
theorem components_append_slash {dir : String} (some : dir ≠ "") (path : String) :
    components (dir ++ "/" ++ path) =
      components dir ++ (parts path.toList).map String.ofList := by
  obtain ⟨start, rest, known, starts⟩ := exists_starts dir.toList
  have any : start ++ rest ≠ [] := by
    rw [← known]
    exact mt String.toList_eq_nil_iff.mp some
  have longer : (dir ++ "/" ++ path).toList = start ++ (rest ++ '/' :: path.toList) := by
    simp [known]
  rw [components_of_starts known starts, components_of_starts longer (starts.extend any _),
    parts_append]
  simp

theorem components_root (path : String) :
    components ("/" ++ path) = components "/" ++ (parts path.toList).map String.ofList := by
  have known : ("/" ++ path).toList = ['/'] ++ path.toList := by simp
  rw [components_of_starts known (.root _)]
  rfl

/-- Seen from a directory, a path goes on after a slash behind it, unless that is the root. -/
theorem join_cases {dir path : String} (some : dir ≠ "") (relative : isAbsolute path = false) :
    (dir = "/" ∧ join dir path = "/" ++ path) ∨
      ∃ outer, outer ≠ "" ∧ components outer = components dir ∧
        join dir path = outer ++ "/" ++ path := by
  have filled : dir.isEmpty = false := by simpa using some
  unfold join
  rw [relative, filled]
  cases ends : Text.endsWith "/" dir with
  | false => exact .inr ⟨dir, some, rfl, rfl⟩
  | true =>
    obtain ⟨front, known⟩ := List.isSuffixOf_iff_suffix.mp ends
    obtain rfl : dir = String.ofList front ++ "/" := by
      rw [← String.toList_inj, ← known]
      simp
    by_cases root : String.ofList front = ""
    · rw [root]
      exact .inl ⟨rfl, rfl⟩
    · have outer := components_append_slash root ""
      rw [String.append_empty] at outer
      refine .inr ⟨String.ofList front, root, ?_, rfl⟩
      rw [outer]
      simp [parts, Chars.splitAll]

/-- A path seen from a directory lies in it, with its parts. -/
theorem components_join {dir path : String} (some : dir ≠ "") (relative : isAbsolute path = false) :
    components (join dir path) = components dir ++ (parts path.toList).map String.ofList := by
  obtain ⟨rfl, joined⟩ | ⟨outer, any, same, joined⟩ := join_cases some relative
  · rw [joined, components_root]
  · rw [joined, components_append_slash any, same]

theorem within_join {path : String} (relative : isAbsolute path = false) (dir : String) :
    Within dir (join dir path) := by
  by_cases none : dir = ""
  · exact none ▸ within_empty _
  · rw [Within, components_join none relative]
    exact List.prefix_append _ _

/-! ### Directories of paths -/

/-- What stands before the last part, and the last part. -/
theorem exists_lastPart (cs : List Char) : ∃ front last, cs = front ++ last ∧ '/' ∉ last ∧
    front = (cs.reverse.dropWhile (· ≠ '/')).reverse ∧ (front = [] ∨ ∃ dir, front = dir ++ ['/']) := by
  refine ⟨(cs.reverse.dropWhile (· ≠ '/')).reverse, (cs.reverse.takeWhile (· ≠ '/')).reverse,
    ?_, ?_, rfl, ?_⟩
  · rw [← List.reverse_append, List.takeWhile_append_dropWhile, List.reverse_reverse]
  · intro member
    have other := List.all_eq_true.mp List.all_takeWhile _ (List.mem_reverse.mp member)
    simp at other
  · cases known : cs.reverse.dropWhile (· ≠ '/') with
    | nil => exact .inl rfl
    | cons c rest =>
      have slash := List.head_dropWhile_not (p := fun c => decide (c ≠ '/')) (l := cs.reverse)
        (by rw [known]; nofun)
      simp only [known, List.head_cons] at slash
      exact .inr ⟨rest.reverse, by simpa using slash⟩

/-- The directory of a path keeps the parts before the last one. -/
theorem components_dir {start front last : List Char} (starts : Starts start (front ++ last))
    (slash : front = [] ∨ ∃ dir, front = dir ++ ['/']) :
    components (String.ofList (start ++ dropBack front)) =
      (lead start ++ parts front).map String.ofList := by
  obtain ⟨back, known, ends⟩ := exists_dropBack front
  rw [← parts_dropBack front]
  refine components_of_starts String.toList_ofList ?_
  rw [known, List.append_assoc] at starts
  refine starts.cut ?_
  obtain rfl | slash := slash
  · exact .inl rfl
  · refine ends.imp_right ?_
    rintro (none | ⟨others, rfl⟩)
    · exact absurd none (ne_nil_of_dropBack slash known)
    · exact .inr ⟨others ++ last, rfl⟩

theorem parent?_of_starts {path dir : String} {start rest : List Char}
    (known : path.toList = start ++ rest) (starts : Starts start rest)
    (found : parent? path = some dir) :
    (dropBack rest = [] ∧ dir = "") ∨ (dropBack rest ≠ [] ∧ dir = String.ofList
      (start ++ dropBack ((dropBack rest).reverse.dropWhile (· ≠ '/')).reverse)) := by
  unfold parent? at found
  rw [split_eq_iff.mpr ⟨known, starts⟩] at found
  simp only at found
  split at found
  · next none =>
    split at found <;> cases found
    exact .inl ⟨none, rfl⟩
  · next some =>
    cases found
    exact .inr ⟨some, rfl⟩

/-- A path lies in its directory. -/
theorem within_parent? {path dir : String} (found : parent? path = some dir) : Within dir path := by
  obtain ⟨start, rest, known, starts⟩ := exists_starts path.toList
  obtain ⟨-, rfl⟩ | ⟨some, rfl⟩ := parent?_of_starts known starts found
  · exact within_empty path
  · obtain ⟨front, last, whole, single, cut, slash⟩ := exists_lastPart (dropBack rest)
    obtain ⟨back, more, -⟩ := exists_dropBack rest
    have begins : Starts start (front ++ (last ++ back)) := by
      rwa [← List.append_assoc, ← whole, ← more]
    rw [← cut, Within, components_dir begins slash, components_of_starts known starts,
      ← parts_dropBack rest, whole]
    refine List.IsPrefix.map _ ((List.prefix_append_right_inj _).mpr ?_)
    obtain rfl | ⟨dir, rfl⟩ := slash
    · exact List.nil_prefix
    · rw [List.append_assoc, List.singleton_append, parts_append, parts_append]
      exact List.prefix_append_right_inj _ |>.mpr List.nil_prefix

theorem within_parent (path : String) : Within (parent path) path := by
  unfold parent
  cases found : parent? path with
  | none => exact within_empty path
  | some dir => exact within_parent? found

theorem within_of_mem_ancestors {dir path : String} (member : dir ∈ ancestors path) :
    Within dir path := by
  have going (fuel : Nat) (path : String) (member : dir ∈ ancestors.go path fuel) :
      Within dir path := by
    induction fuel generalizing path with
    | zero => cases member
    | succ fuel ih =>
      rcases List.mem_cons.mp member with rfl | later
      · exact within_refl _
      · split at later
        · next outer found => exact (ih outer later).trans (within_parent? found)
        · cases later
  exact going _ path member

/-! ### Files in directories -/

/-- A name that is one part of a path. -/
structure IsPart (name : String) : Prop where
  some : name ≠ ""
  noSlash : '/' ∉ name.toList
  noDot : name ≠ "."

variable {name : String}

theorem IsPart.relative (part : IsPart name) : isAbsolute name = false := by
  rw [Bool.eq_false_iff]
  intro absolute
  obtain ⟨rest, known⟩ := List.isPrefixOf_iff_prefix.mp absolute
  exact part.noSlash (known ▸ List.mem_append_left _ (by decide))

theorem IsPart.starts (part : IsPart name) : Starts [] name.toList := by
  refine .none (fun others same => part.noSlash (same ▸ List.mem_cons_self ..)) ?_
  rintro others same (rfl | ⟨more, rfl⟩)
  · exact part.noDot (String.toList_inj.mp same)
  · exact part.noSlash (same ▸ List.mem_cons_of_mem _ (List.mem_cons_self ..))

/-- Nothing is dropped behind a name. -/
theorem IsPart.dropBack_append (part : IsPart name) (front : List Char) :
    dropBack (front ++ name.toList) = front ++ name.toList := by
  have kept : dropFront (name.toList.reverse ++ front.reverse) =
      name.toList.reverse ++ front.reverse := by
    have noSlash : '/' ∉ name.toList.reverse := mt List.mem_reverse.mp part.noSlash
    cases known : name.toList.reverse with
    | nil => exact absurd (String.toList_eq_nil_iff.mp (List.reverse_eq_nil_iff.mp known)) part.some
    | cons c rest =>
      have dot (ends : rest = []) : c ≠ '.' := by
        rintro rfl
        rw [ends, List.reverse_eq_iff] at known
        exact part.noDot (String.toList_inj.mp known)
      rw [known] at noSlash
      rw [List.cons_append]
      unfold dropFront
      split
      · next same => exact absurd (List.cons.inj same).1 (List.ne_of_not_mem_cons noSlash).symm
      · next others same =>
        obtain ⟨rfl, following⟩ := List.cons.inj same
        cases rest with
        | nil => exact absurd rfl (dot rfl)
        | cons d rest =>
          rw [(List.cons.inj following).1] at noSlash
          simp at noSlash
      · next same =>
        obtain ⟨rfl, following⟩ := List.cons.inj same
        exact absurd rfl (dot (List.append_eq_nil_iff.mp following).1)
      · rfl
  rw [dropBack, List.reverse_append, kept, List.reverse_append, List.reverse_reverse,
    List.reverse_reverse]

/-- The directory of a file is what stands before its name. -/
theorem components_parent {path : String} {start front : List Char} (part : IsPart name)
    (known : path.toList = start ++ (front ++ name.toList))
    (starts : Starts start (front ++ name.toList))
    (slash : front = [] ∨ ∃ dir, front = dir ++ ['/']) :
    components (parent path) = (lead start ++ parts front).map String.ofList := by
  have any : dropBack (front ++ name.toList) ≠ [] := by
    rw [part.dropBack_append]
    exact fun none => part.some (String.toList_eq_nil_iff.mp (List.append_eq_nil_iff.mp none).2)
  have cut : ((front ++ name.toList).reverse.dropWhile (· ≠ '/')).reverse = front := by
    have all : ∀ c ∈ name.toList.reverse, decide (c ≠ '/') = true := by
      intro c member
      simp only [ne_eq, decide_not, Bool.not_eq_true', decide_eq_false_iff_not]
      rintro rfl
      exact part.noSlash (List.mem_reverse.mp member)
    rw [List.reverse_append, List.dropWhile_append_of_pos all]
    obtain rfl | ⟨dir, rfl⟩ := slash
    · rfl
    · simp
  have found : parent? path = some (String.ofList (start ++ dropBack front)) := by
    unfold parent?
    rw [split_eq_iff.mpr ⟨known, starts⟩]
    simp only
    rw [part.dropBack_append, cut]
  rw [parent, found, Option.getD_some, components_dir starts slash]

/-- A file that is seen from a directory has that directory. -/
theorem components_parent_join (part : IsPart name) (dir : String) :
    components (parent (join dir name)) = components dir := by
  by_cases none : dir = ""
  · subst none
    have alone : join "" name = name := by
      unfold join
      rw [part.relative]
      rfl
    rw [alone]
    have whole : name.toList = [] ++ ([] ++ name.toList) := rfl
    exact components_parent part whole part.starts (.inl rfl)
  · obtain ⟨rfl, joined⟩ | ⟨outer, any, same, joined⟩ := join_cases none part.relative
    · rw [joined]
      have known : ("/" ++ name).toList = ['/'] ++ ([] ++ name.toList) := by simp
      exact components_parent part known (.root _) (.inl rfl)
    · obtain ⟨start, rest, known, starts⟩ := exists_starts outer.toList
      have filled : start ++ rest ≠ [] := known ▸ mt String.toList_eq_nil_iff.mp any
      have longer : (outer ++ "/" ++ name).toList = start ++ ((rest ++ ['/']) ++ name.toList) := by
        simp [known]
      have goesOn : Starts start ((rest ++ ['/']) ++ name.toList) := by
        rw [List.append_assoc]
        exact starts.extend filled name.toList
      rw [joined, components_parent part longer goesOn (.inr ⟨rest, rfl⟩), parts_append, ← same,
        components_of_starts known starts]
      simp [parts, Chars.splitAll]

/-! ### Places in a directory -/

/-- Exactly the paths in a directory can be seen from it. -/
theorem isSome_relativeTo?_iff {dir path : String} :
    (relativeTo? dir path).isSome = true ↔ Within dir path := by
  rw [Within, ← List.isPrefixOf_iff_prefix, ← List.isSome_isPrefixOf?_eq_isPrefixOf]
  unfold relativeTo?
  cases (components dir).isPrefixOf? (components path) <;> simp

end Companion.Path

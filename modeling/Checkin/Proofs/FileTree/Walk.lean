import Checkin.FileTree

/-!
# Walks

What holds of every walk: which faults can end one, and what becomes of it in a tree that grew. What the
tool does to a tree never takes an entry away or makes another kind of entry of it (`Retains`), so a walk
that reached something in the old tree reaches the same place in the new one.
-/

namespace Checkin.FileTree

/-- Every entry of a tree is in another one too: directories and links as they are, files perhaps with
other content. -/
structure Retains (t t' : FileTree) : Prop where
  directory : ∀ {l}, t.get? l = some .directory → t'.get? l = some .directory
  link : ∀ {l target}, t.get? l = some (.link target) → t'.get? l = some (.link target)
  file : ∀ {l content}, t.get? l = some (.file content) → ∃ content', t'.get? l = some (.file content')

theorem Retains.refl (t : FileTree) : Retains t t :=
  ⟨id, id, fun h => ⟨_, h⟩⟩

theorem Retains.trans {t t' t'' : FileTree} (h : Retains t t') (h' : Retains t' t'') :
    Retains t t'' := by
  refine ⟨fun found => h'.directory (h.directory found), fun found => h'.link (h.link found), ?_⟩
  intro l content found
  obtain ⟨content', found'⟩ := h.file found
  exact h'.file found'

/-! ## One name -/

variable {t t' : FileTree} {purpose : Purpose} {links : Nat} {here place : Place} {name : String}
  {names more : List String} {fault : Fault}

theorem walk_nil : t.walk purpose links here [] = .ok here := by
  rw [walk]

theorem walk_skip (skipped : name = "." ∨ name = "") :
    t.walk purpose links here (name :: names) = t.walk purpose links here names := by
  rw [walk, if_pos skipped]

theorem walk_up : t.walk purpose links here (".." :: names) = t.walk purpose links here.parent names := by
  rw [walk, if_neg (by decide), if_pos rfl]

/-- A name is that of an entry: it leads neither nowhere nor up. -/
def IsPlain (name : String) : Prop :=
  name ∉ ["", ".", ".."]

instance (name : String) : Decidable (IsPlain name) :=
  inferInstanceAs (Decidable (_ ∉ _))

theorem IsPlain.ne_empty (plain : IsPlain name) : name ≠ "" := by
  rintro rfl
  exact plain (by simp)

theorem IsPlain.not_skipped (plain : IsPlain name) : ¬(name = "." ∨ name = "") := by
  rintro (rfl | rfl) <;> exact plain (by simp)

theorem IsPlain.not_up (plain : IsPlain name) : ¬name = ".." := by
  rintro rfl
  exact plain (by simp)

/-- At a plain name, what stands there decides. -/
theorem walk_plain (plain : ¬(name = "." ∨ name = "")) (notUp : ¬name = "..")
    (notSlashed : ¬(purpose = .file ∧ names = [""])) (standing : ¬here.lost ≠ 0)
    (fits : ¬maxNameSize < name.utf8ByteSize) :
    t.walk purpose links here (name :: names) =
      match t.get? (here.child name).location with
      | some .directory => t.walk purpose links (here.child name) names
      | some (.file _) => if names = [] then .ok (here.child name) else .error .notADirectory
      | some (.link target) =>
        if purpose = .entry ∧ names = [] then .ok (here.child name)
        else
          match links with
          | 0 => .error .tooManyLinks
          | links + 1 => t.walk purpose links (targetStart here target) (targetNames target ++ names)
      | none => if names = [] then .ok (here.child name) else .error .notFound := by
  rw [walk, if_neg plain, if_neg notUp, if_neg notSlashed, if_neg standing]
  exact if_neg fits

/-! ## Walks in a tree that grew -/

/-- A walk that reached something, or a place at which there is no link now, reaches it still. -/
theorem walk_eq_ok_of_no_link (retains : Retains t t')
    (walked : t.walk purpose links here names = .ok place)
    (noLink : t.get? place.location = none → ∀ target, t'.get? place.location ≠ some (.link target)) :
    t'.walk purpose links here names = .ok place := by
  fun_induction walk t purpose links here names with
  | case1 => simpa only [walk] using walked
  | case2 _ _ _ _ skipped ih => rw [walk_skip skipped, ih walked]
  | case3 _ _ _ _ ih => rw [walk_up, ih walked]
  | case4 | case5 | case6 | case9 | case11 | case14 => cases walked
  | case7 _ _ _ _ plain notUp notSlashed standing fits _ found ih =>
    rw [walk_plain plain notUp notSlashed standing fits, retains.directory found]
    exact ih walked
  | case8 _ _ _ plain notUp standing fits _ _ found notSlashed =>
    obtain ⟨content', found'⟩ := retains.file found
    rw [walk_plain plain notUp notSlashed standing fits, found']
    simpa using walked
  | case10 _ _ _ _ plain notUp notSlashed standing fits _ _ found ends =>
    rw [walk_plain plain notUp notSlashed standing fits, retains.link found]
    simpa only [if_pos ends] using walked
  | case12 _ _ _ plain notUp notSlashed standing fits _ _ found goesOn _ ih =>
    rw [walk_plain plain notUp notSlashed standing fits, retains.link found]
    simpa only [if_neg goesOn] using ih walked
  | case13 _ _ _ plain notUp standing fits _ absent notSlashed =>
    injection walked with reached
    have noLink' := noLink (reached ▸ absent)
    rw [← reached] at noLink' ⊢
    rw [walk_plain plain notUp notSlashed standing fits]
    split
    · exact walk_nil
    · rfl
    · next target found => exact absurd found (noLink' target)
    · rfl

/-- A walk that reached something, or a place at which there is a file now, reaches it still. -/
theorem walk_eq_ok_of_retains (retains : Retains t t')
    (walked : t.walk purpose links here names = .ok place)
    (there : t.get? place.location = none → ∃ content, t'.get? place.location = some (.file content)) :
    t'.walk purpose links here names = .ok place := by
  refine walk_eq_ok_of_no_link retains walked fun absent target found => ?_
  obtain ⟨content, found'⟩ := there absent
  rw [found'] at found
  cases found

/-- A walk that something stood in the way of ends there still. -/
theorem walk_eq_error_of_retains (retains : Retains t t')
    (walked : t.walk purpose links here names = .error fault) (blocked : fault ≠ .notFound) :
    t'.walk purpose links here names = .error fault := by
  fun_induction walk t purpose links here names with
  | case1 | case8 | case10 | case13 => cases walked
  | case5 | case14 =>
    cases walked
    exact absurd rfl blocked
  | case2 _ _ _ _ skipped ih => rw [walk_skip skipped, ih walked]
  | case3 _ _ _ _ ih => rw [walk_up, ih walked]
  | case4 _ _ _ _ plain notUp slashed =>
    rw [walk, if_neg plain, if_neg notUp, if_pos slashed]
    exact walked
  | case6 _ _ _ _ plain notUp notSlashed standing long =>
    rw [walk, if_neg plain, if_neg notUp, if_neg notSlashed, if_neg standing, if_pos long]
    exact walked
  | case7 _ _ _ _ plain notUp notSlashed standing fits _ found ih =>
    rw [walk_plain plain notUp notSlashed standing fits, retains.directory found]
    exact ih walked
  | case9 _ _ _ _ plain notUp notSlashed standing fits _ _ found more =>
    obtain ⟨content', found'⟩ := retains.file found
    rw [walk_plain plain notUp notSlashed standing fits, found']
    exact (if_neg more).trans walked
  | case11 _ _ _ plain notUp notSlashed standing fits _ _ found goesOn =>
    rw [walk_plain plain notUp notSlashed standing fits, retains.link found]
    exact (if_neg goesOn).trans walked
  | case12 _ _ _ plain notUp notSlashed standing fits _ _ found goesOn _ ih =>
    rw [walk_plain plain notUp notSlashed standing fits, retains.link found]
    exact (if_neg goesOn).trans (ih walked)

/-- Where a file is opened, looking finds it. -/
theorem walk_target_of_walk_file (walked : t.walk .file links here names = .ok place) :
    t.walk .target links here names = .ok place := by
  generalize file : Purpose.file = purpose at walked
  fun_induction walk t purpose links here names with
  | case1 => simpa only [walk] using walked
  | case2 _ _ _ _ skipped ih => rw [walk_skip skipped, ih walked]
  | case3 _ _ _ _ ih => rw [walk_up, ih walked]
  | case4 | case5 | case6 | case9 | case11 | case14 => cases walked
  | case7 _ _ _ _ plain notUp _ standing fits _ found ih =>
    rw [walk_plain plain notUp (by simp) standing fits, found]
    exact ih walked
  | case8 _ _ _ plain notUp standing fits _ _ found =>
    rw [walk_plain plain notUp (by simp) standing fits, found]
    simpa using walked
  | case10 _ _ _ _ _ _ _ _ _ _ _ _ ends => rw [← file] at ends; cases ends.1
  | case12 _ _ _ plain notUp _ standing fits _ _ found _ _ ih =>
    rw [walk_plain plain notUp (by simp) standing fits, found]
    simpa using ih walked
  | case13 _ _ _ plain notUp standing fits _ absent =>
    rw [walk_plain plain notUp (by simp) standing fits, absent]
    simpa using walked

/-- A walk to an entry that is no link goes on to nothing else. -/
theorem walk_target_of_walk_entry (walked : t.walk .entry links here names = .ok place)
    (noLink : ∀ target, t.get? place.location ≠ some (.link target)) :
    t.walk .target links here names = .ok place := by
  generalize entry : Purpose.entry = purpose at walked
  fun_induction walk t purpose links here names with
  | case1 => simpa only [walk] using walked
  | case2 _ _ _ _ skipped ih => rw [walk_skip skipped, ih walked]
  | case3 _ _ _ _ ih => rw [walk_up, ih walked]
  | case4 | case5 | case6 | case9 | case11 | case14 => cases walked
  | case7 _ _ _ _ plain notUp _ standing fits _ found ih =>
    rw [walk_plain plain notUp (by simp) standing fits, found]
    exact ih walked
  | case8 _ _ _ plain notUp standing fits _ _ found =>
    rw [walk_plain plain notUp (by simp) standing fits, found]
    simpa using walked
  | case10 _ _ _ _ _ _ _ _ _ _ target found =>
    injection walked with reached
    exact absurd found (reached ▸ noLink target)
  | case12 _ _ _ plain notUp _ standing fits _ _ found _ _ ih =>
    rw [walk_plain plain notUp (by simp) standing fits, found]
    simpa using ih walked
  | case13 _ _ _ plain notUp standing fits _ absent =>
    rw [walk_plain plain notUp (by simp) standing fits, absent]
    simpa using walked

/-- A walk to a directory is the first part of every walk along more names, whatever is added to the tree.
-/
theorem walk_append_of_directory (walked : t.walk .target links here names = .ok place)
    (directory : t.nodeAt place = some .directory) :
    ∃ left, ∀ t', Retains t t' → ∀ purpose more, purpose = .target ∨ more ≠ [] ∧ more ≠ [""] →
      t'.walk purpose links here (names ++ more) = t'.walk purpose left place more := by
  have notSlash : ∀ {purpose : Purpose} {more : List String}, purpose = .target ∨ more ≠ [] ∧ more ≠ [""] →
      ∀ names : List String, ¬(purpose = .file ∧ names ++ more = [""]) := by
    rintro _ more (rfl | ⟨some, named⟩) names ⟨file, slash⟩
    · cases file
    · rcases List.append_eq_singleton_iff.1 slash with ⟨-, same⟩ | ⟨-, none⟩
      · exact named same
      · exact some none
  fun_induction walk t .target links here names with
  | case1 links here =>
    cases walked
    exact ⟨links, fun _ _ _ _ _ => rfl⟩
  | case2 _ _ _ _ skipped ih =>
    obtain ⟨left, leads⟩ := ih walked
    refine ⟨left, fun t' retains purpose more goesOn => ?_⟩
    rw [List.cons_append, walk_skip skipped, leads t' retains purpose more goesOn]
  | case3 _ _ _ _ ih =>
    obtain ⟨left, leads⟩ := ih walked
    refine ⟨left, fun t' retains purpose more goesOn => ?_⟩
    rw [List.cons_append, walk_up, leads t' retains purpose more goesOn]
  | case4 | case5 | case6 | case9 | case11 | case14 => cases walked
  | case10 _ _ _ _ _ _ _ _ _ _ _ _ ends => cases ends.1
  | case7 _ _ _ _ plain notUp _ standing fits _ found ih =>
    obtain ⟨left, leads⟩ := ih walked
    refine ⟨left, fun t' retains purpose more goesOn => ?_⟩
    rw [List.cons_append, walk_plain plain notUp (notSlash goesOn _) standing fits, retains.directory found]
    exact leads t' retains purpose more goesOn
  | case8 _ _ _ _ _ _ _ _ _ found =>
    injection walked with reached
    rw [← reached] at directory
    cases found.symm.trans directory
  | case12 _ _ _ plain notUp _ standing fits _ _ found _ _ ih =>
    obtain ⟨left, leads⟩ := ih walked
    refine ⟨left, fun t' retains purpose more goesOn => ?_⟩
    have notEnd : ∀ names : List String, ¬(purpose = .entry ∧ names ++ more = []) := by
      rintro names ⟨rfl, ends⟩
      rcases goesOn with target | ⟨some, -⟩
      · cases target
      · exact some (List.append_eq_nil_iff.1 ends).2
    rw [List.cons_append, walk_plain plain notUp (notSlash goesOn _) standing fits, retains.link found]
    show (if _ ∧ _ ++ more = [] then _ else _) = _
    rw [if_neg (notEnd _), ← List.append_assoc]
    exact leads t' retains purpose more goesOn
  | case13 _ _ _ _ _ _ _ _ absent =>
    injection walked with reached
    rw [← reached] at directory
    cases absent.symm.trans directory

/-- Where a path leads on from some names, the names lead to something. -/
theorem walk_entry_of_walk_target
    (walked : t.walk .target links here (names ++ more) = .ok place) :
    ∃ place', t.walk .entry links here names = .ok place' := by
  generalize whole : names ++ more = all at walked
  revert names more
  fun_induction walk t .target links here all with
  | case1 =>
    intro names more whole
    rw [(List.append_eq_nil_iff.1 whole).1, walk]
    exact ⟨_, rfl⟩
  | case4 | case5 | case6 | case9 | case11 | case14 => cases walked
  | case10 _ _ _ _ _ _ _ _ _ _ _ _ ends => cases ends.1
  | case2 links here name rest skipped ih =>
    intro names more whole
    rcases List.append_eq_cons_iff.1 whole with ⟨rfl, -⟩ | ⟨names, rfl, rfl⟩
    · exact ⟨here, walk_nil⟩
    · rw [walk_skip skipped]
      exact ih walked rfl
  | case3 links here rest _ ih =>
    intro names more whole
    rcases List.append_eq_cons_iff.1 whole with ⟨rfl, -⟩ | ⟨names, rfl, rfl⟩
    · exact ⟨here, walk_nil⟩
    · rw [walk_up]
      exact ih walked rfl
  | case7 links here name rest plain notUp _ standing fits _ found ih =>
    intro names more whole
    rcases List.append_eq_cons_iff.1 whole with ⟨rfl, -⟩ | ⟨names, rfl, rfl⟩
    · exact ⟨here, walk_nil⟩
    · rw [walk_plain plain notUp (by simp) standing fits, found]
      exact ih walked rfl
  | case8 links here name plain notUp standing fits _ content found =>
    intro names more whole
    rcases List.append_eq_cons_iff.1 whole with ⟨rfl, -⟩ | ⟨names, rfl, ends⟩
    · exact ⟨here, walk_nil⟩
    · rw [(List.append_eq_nil_iff.1 ends.symm).1, walk_plain plain notUp (by simp) standing fits, found]
      exact ⟨_, rfl⟩
  | case12 here name rest plain notUp _ standing fits _ target found _ links ih =>
    intro names more whole
    rcases List.append_eq_cons_iff.1 whole with ⟨rfl, -⟩ | ⟨names, rfl, rfl⟩
    · exact ⟨here, walk_nil⟩
    · rw [walk_plain plain notUp (by simp) standing fits, found]
      by_cases last : names = []
      · exact ⟨_, if_pos ⟨rfl, last⟩⟩
      · obtain ⟨place', reached⟩ := ih walked (List.append_assoc _ _ _)
        exact ⟨place', (if_neg (by simp [last])).trans reached⟩
  | case13 links here name plain notUp standing fits _ absent =>
    intro names more whole
    rcases List.append_eq_cons_iff.1 whole with ⟨rfl, -⟩ | ⟨names, rfl, ends⟩
    · exact ⟨here, walk_nil⟩
    · rw [(List.append_eq_nil_iff.1 ends.symm).1, walk_plain plain notUp (by simp) standing fits, absent]
      exact ⟨_, rfl⟩

end Checkin.FileTree

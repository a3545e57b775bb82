import Checkin.Proofs.FileTree.Directory

/-!
# Directories that were not there

A directory that is made by plain names, none of them a double dot, is there already, or it is new and nothing
is in it (`Fresh`). This takes a tree in which nothing is below what is missing (`Rooted`).
-/

namespace Checkin.FileTree

variable {t t' before : FileTree} {here place place' : Place} {links depth : Nat} {p directory : Path}
  {name : String} {names more : List String} {purpose : Purpose}

/-- Nothing is below what is missing. -/
def Rooted (t : FileTree) : Prop :=
  ∀ l more, t.get? l = none → t.get? (l ++ more) = none

/-! ## Walks past what is missing -/

/-- A walk to a name that is missing ends there, if it ends well. -/
theorem walk_name (plain : IsPlain name) (notSlashed : ¬(purpose = .file ∧ names = [""]))
    (standing : here.lost = 0) (absent : t.get? (here.child name).location = none)
    (walked : t.walk purpose links here (name :: names) = .ok place) :
    names = [] ∧ place = here.child name := by
  by_cases long : maxNameSize < name.utf8ByteSize
  · rw [walk, if_neg plain.not_skipped, if_neg plain.not_up, if_neg notSlashed, if_neg (by simp [standing]),
      if_pos long] at walked
    cases walked
  · rw [walk_plain plain.not_skipped plain.not_up notSlashed (by simp [standing]) long, absent] at walked
    dsimp only at walked
    split at walked
    · next last =>
      cases walked
      exact ⟨last, rfl⟩
    · cases walked

theorem not_slashed (plain : ∀ name ∈ more, IsPlain name) (some : more ≠ []) (names : List String) :
    ¬(purpose = .file ∧ names ++ more = [""]) := by
  rintro ⟨-, slash⟩
  rcases List.append_eq_singleton_iff.1 slash with ⟨-, same⟩ | ⟨-, none⟩
  · subst same
    exact (plain "" (by simp)).ne_empty rfl
  · exact some none

/-- Where names lead to nothing, plain names after them lead to nothing either. -/
theorem nodeAt_of_walk_append (rooted : Rooted t) (walked : t.walk .entry links here names = .ok place)
    (absent : t.nodeAt place = none) (plain : ∀ name ∈ more, IsPlain name) (some : more ≠ [])
    (reached : t.walk purpose links here (names ++ more) = .ok place') : t.nodeAt place' = none := by
  have notSlashed : ∀ names, ¬(purpose = .file ∧ names ++ more = [""]) := not_slashed plain some
  generalize entry : Purpose.entry = aim at walked
  fun_induction walk t aim links here names with
  | case1 links here =>
    cases walked
    obtain ⟨standing, absent⟩ := eq_of_nodeAt_eq_none absent
    obtain ⟨name, rest, rfl⟩ := List.exists_cons_of_ne_nil some
    have below : t.get? (place.child name).location = none := rooted _ [name] absent
    have notSlashed : ¬(purpose = .file ∧ rest = [""]) := by
      rintro ⟨-, rfl⟩
      exact (plain "" (by simp)).ne_empty rfl
    obtain ⟨-, rfl⟩ := walk_name (plain name List.mem_cons_self) notSlashed standing below reached
    rw [nodeAt_child, below]
  | case2 _ _ _ _ skipped ih =>
    rw [List.cons_append, walk_skip skipped] at reached
    exact ih reached walked
  | case3 _ _ _ _ ih =>
    rw [List.cons_append, walk_up] at reached
    exact ih reached walked
  | case4 | case5 | case6 | case9 | case11 | case14 => cases walked
  | case7 _ _ _ _ plainHere notUp _ standing fits _ found ih =>
    rw [List.cons_append, walk_plain plainHere notUp (notSlashed _) standing fits, found] at reached
    exact ih reached walked
  | case8 links here name _ _ standing _ _ content found =>
    injection walked with ended
    rw [← ended, nodeAt_child, found] at absent
    cases absent
  | case10 links here name names _ _ _ _ _ _ target found =>
    injection walked with ended
    rw [← ended, nodeAt_child, found] at absent
    cases absent
  | case12 _ _ _ plainHere notUp _ standing fits _ _ found _ _ ih =>
    have notEnd : ∀ names : List String, ¬(purpose = .entry ∧ names ++ more = []) := by
      rintro names ⟨-, ends⟩
      exact some (List.append_eq_nil_iff.1 ends).2
    rw [List.cons_append, walk_plain plainHere notUp (notSlashed _) standing fits, found] at reached
    dsimp only at reached
    rw [if_neg (notEnd _), ← List.append_assoc] at reached
    exact ih reached walked
  | case13 _ _ _ plainHere notUp standing fits _ missing =>
    have notSlashedHere : ¬(purpose = .file ∧ more = [""]) := notSlashed []
    rw [List.singleton_append, walk_plain plainHere notUp notSlashedHere standing fits, missing] at reached
    dsimp only at reached
    rw [if_neg some] at reached
    cases reached

/-! ## New directories -/

/-- A directory is new: it is there with nothing in it, and before, no plain names led from it to anything.
-/
structure Fresh (before t : FileTree) (here : Place) (p : Path) (place : Place) : Prop where
  missing : ∀ more purpose place', more ≠ [] → (∀ name ∈ more, IsPlain name) →
    before.find here ⟨p.root, p.names ++ more⟩ purpose = .ok place' → before.nodeAt place' = none
  found : t.find here p .target = .ok place
  there : t.nodeAt place = some .directory
  standing : place.lost = 0
  bare : ∀ more, more ≠ [] → t.get? (place.location ++ more) = none

theorem Fresh.eq_child (fresh : Fresh before t here directory place) (plain : IsPlain name)
    (reached : t.find here (directory.child name) purpose = .ok place') : place' = place.child name := by
  obtain ⟨left, leads⟩ := find_child fresh.found fresh.there
  obtain ⟨noNul, fits, -⟩ := find_eq_ok reached
  rw [leads t name purpose (Retains.refl t) plain.ne_empty noNul fits] at reached
  exact (walk_name plain (by simp) fresh.standing (fresh.bare [name] (by simp)) reached).2

/-- The names in a new directory lead to nothing, neither before it was made nor then. -/
theorem Fresh.names_nothing (fresh : Fresh before t here directory place) (plain : IsPlain name)
    (purpose : Purpose) :
    (∀ place', before.find here (directory.child name) purpose = .ok place' → before.nodeAt place' = none) ∧
      ∀ place', t.find here (directory.child name) purpose = .ok place' → t.nodeAt place' = none := by
  refine ⟨fun place' reached => ?_, fun place' reached => ?_⟩
  · exact fresh.missing [name] purpose place' (by simp) (by simpa using plain) reached
  · obtain rfl := fresh.eq_child plain reached
    rw [nodeAt_child]
    exact fresh.bare [name] (by simp)

theorem exists_fresh_of_makeDirectory (rooted : Rooted t) (made : t.makeDirectory here p = .ok t') :
    ∃ place, Fresh t t' here p place := by
  obtain ⟨place, foundEntry, absent, rfl, found, there⟩ := makeDirectory_eq_ok made
  obtain ⟨standing, missing⟩ := eq_of_nodeAt_eq_none absent
  refine ⟨place, ?_, found, there, standing, fun more some => ?_⟩
  · intro more purpose place' some plain reached
    obtain ⟨-, -, walked⟩ := find_eq_ok foundEntry
    obtain ⟨-, -, walkedOn⟩ := find_eq_ok reached
    exact nodeAt_of_walk_append rooted walked absent plain some walkedOn
  · rw [get?_set_of_ne (ne_root_of_get?_eq_none missing) (by simpa using some), rooted _ more missing]

/-- A directory in a new one is new. -/
theorem Fresh.makeDirectory (fresh : Fresh before t here directory place) (plain : IsPlain name)
    (made : t.makeDirectory here (directory.child name) = .ok t') :
    Fresh before t' here (directory.child name) (place.child name) := by
  obtain ⟨there', foundEntry, absent, rfl, found, there⟩ := makeDirectory_eq_ok made
  obtain rfl := fresh.eq_child plain foundEntry
  refine ⟨?_, found, there, rfl, fun more some => ?_⟩
  · intro more purpose place' some plainMore reached
    have allPlain := List.forall_mem_cons.2 ⟨plain, plainMore⟩
    refine fresh.missing (name :: more) purpose place' (by simp) allPlain ?_
    rw [← reached]
    simp [Path.child]
  · have notRoot : (place.child name).location ≠ [] := by simp [Place.child]
    rw [get?_set_of_ne notRoot (by simpa using some)]
    have below := fresh.bare (name :: more) (by simp)
    simpa [Place.child] using below

/-- A directory that is made by plain names is there already, or it is new. -/
theorem exists_fresh_of_makeDirectories (rooted : Rooted t) (plain : ∀ name ∈ p.names, IsPlain name)
    (made : t.makeDirectories here depth p = (.ok (), t')) :
    (t.isDirectory here p = .ok true ∧ t' = t) ∨ ∃ place, Fresh t t' here p place := by
  fun_induction makeDirectories t here depth p generalizing t' with
  | case1 _ _ _ new =>
    cases made
    exact .inr (exists_fresh_of_makeDirectory rooted new)
  | case2 | case3 | case4 | case6 => cases made
  | case5 p lost some depth files above files' new ih =>
    cases made
    obtain ⟨name, among, same⟩ := Path.exists_child_parent some
    have plainAbove : ∀ name ∈ p.parent.names, IsPlain name :=
      fun name among => plain name (List.dropLast_subset _ among)
    rcases ih plainAbove above with ⟨-, rfl⟩ | ⟨place, fresh⟩
    · rw [lost] at new
      cases new
    · rw [← same] at new ⊢
      exact .inr ⟨_, fresh.makeDirectory (plain name among) new⟩
  | case7 p lost some depth files above fault other failed ih =>
    injection made with settled same
    subst same
    have there := isDirectory_of_settle settled
    obtain ⟨name, among, same⟩ := Path.exists_child_parent some
    have plainAbove : ∀ name ∈ p.parent.names, IsPlain name :=
      fun name among => plain name (List.dropLast_subset _ among)
    rcases ih plainAbove above with ⟨-, rfl⟩ | ⟨place, fresh⟩
    · exact .inl ⟨there, rfl⟩
    · -- There is nothing yet in a directory that was just made.
      rw [← same] at there
      obtain ⟨place', found, holds⟩ := isDirectory_iff.1 there
      obtain rfl := fresh.eq_child (plain name among) found
      rw [nodeAt_child] at holds
      cases (fresh.bare [name] (by simp)).symm.trans holds
  | case8 p fault other failed =>
    injection made with settled same
    subst same
    exact .inl ⟨isDirectory_of_settle settled, rfl⟩

end Checkin.FileTree

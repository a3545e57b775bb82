import Checkin.Proofs.FileTree.Faults

/-!
# Directories that are there

A directory that is there stays there, and making it once more does nothing. What is in it is found from then
on under one location for each name, whatever is added to the tree (`Houses`).
-/

namespace Checkin.FileTree

variable {t t' : FileTree} {here place : Place} {depth : Nat} {p directory : Path} {name : String}
  {purpose : Purpose}

/-! ## Looking at a directory -/

theorem isDirectory_of_there {node : Node} (found : t.find here p .target = .ok place)
    (there : t.nodeAt place = some node) : t.isDirectory here p = .ok (node = .directory) := by
  have looked : t.stat here p = .ok node := by
    rw [stat, bind_of_ok found, there]
  rw [isDirectory, looked]

theorem isDirectory_iff :
    t.isDirectory here p = .ok true ↔
      ∃ place, t.find here p .target = .ok place ∧ t.nodeAt place = some .directory := by
  unfold isDirectory
  constructor
  · intro there
    split at there
    · next node looked =>
      obtain ⟨place, found, held⟩ := exists_of_bind_eq_ok looked
      refine ⟨place, found, ?_⟩
      split at held
      · next node' holds =>
        cases held
        simpa [holds] using there
      · cases held
    · split at there <;> cases there
  · rintro ⟨place, found, holds⟩
    exact isDirectory_of_there found holds

theorem isDirectory_root (t : FileTree) (here : Place) : t.isDirectory here ⟨.absolute, []⟩ = .ok true := by
  refine isDirectory_iff.2 ⟨.root, ?_, rfl⟩
  rw [find_eq_walk (by decide) (by decide)]
  exact walk_nil

theorem nodeAt_directory_of_retains (retains : Retains t t') (holds : t.nodeAt place = some .directory) :
    t'.nodeAt place = some .directory := by
  unfold nodeAt at holds ⊢
  split
  · next standing =>
    rw [if_pos standing] at holds
    exact retains.directory holds
  · rfl

/-- Where a path leads to a directory it leads there still, whatever is added to the tree. -/
theorem find_directory_of_retains (retains : Retains t t') (found : t.find here p .target = .ok place)
    (holds : t.nodeAt place = some .directory) : t'.find here p .target = .ok place := by
  obtain ⟨noNul, fits, walked⟩ := find_eq_ok found
  obtain ⟨left, leads⟩ := walk_append_of_directory walked holds
  have again := leads t' retains .target [] (.inl rfl)
  rw [find_eq_walk noNul fits, ← List.append_nil p.names, again, walk_nil]

theorem isDirectory_of_retains (retains : Retains t t') (there : t.isDirectory here p = .ok true) :
    t'.isDirectory here p = .ok true := by
  obtain ⟨place, found, holds⟩ := isDirectory_iff.1 there
  exact isDirectory_iff.2
    ⟨place, find_directory_of_retains retains found holds, nodeAt_directory_of_retains retains holds⟩

/-! ## Looking again -/

/-- What a path names in a tree it names in every tree that grew out of it. -/
theorem stat_eq_ok_of_grows {node : Node} (grows : Grows t t') (looked : t.stat here p = .ok node) :
    t'.stat here p = .ok node := by
  obtain ⟨place, found, held⟩ := exists_of_bind_eq_ok looked
  cases holds : t.nodeAt place with
  | none =>
    rw [holds] at held
    cases held
  | some node' =>
    rw [holds] at held
    cases held
    have again : t'.find here p .target = .ok place ∧ t'.nodeAt place = some node := by
      by_cases directory : node = .directory
      · subst directory
        exact ⟨find_directory_of_retains grows.retains found holds,
          nodeAt_directory_of_retains grows.retains holds⟩
      · unfold nodeAt at holds ⊢
        split at holds
        · next standing =>
          rw [if_pos standing]
          exact ⟨find_eq_ok_of_retains grows.retains found fun absent => by simp [holds] at absent,
            grows holds⟩
        · cases holds
          exact absurd rfl directory
    rw [stat, bind_of_ok again.1, again.2]

theorem stat_eq_error_of_retains {fault : Fault} (retains : Retains t t')
    (failed : t.stat here p = .error fault) (blocked : fault ≠ .notFound) :
    t'.stat here p = .error fault := by
  rcases error_of_bind_eq_error failed with failed | ⟨place, -, failed⟩
  · exact stat_of_find (find_eq_error_of_retains retains failed blocked)
  · split at failed
    · cases failed
    · cases failed
      exact absurd rfl blocked

/-- Whether a path names something is the same in a tree that grew, unless something was brought to light. -/
theorem exists?_of_grows (grows : Grows t t')
    (hidden : t.exists? here p = .ok false → t'.exists? here p = .ok false) :
    t'.exists? here p = t.exists? here p := by
  cases looked : t.exists? here p with
  | error fault =>
    have failed := stat_of_exists?_error looked
    obtain rfl := exists?_fault looked
    rw [exists?, stat_eq_error_of_retains grows.retains failed (by decide)]
    rfl
  | ok present =>
    cases present with
    | false => exact hidden looked
    | true =>
      obtain ⟨node, named⟩ := exists?_eq_true_iff.1 looked
      exact exists?_eq_true_iff.2 ⟨node, stat_eq_ok_of_grows grows named⟩

/-! ## Making a directory that is there -/

/-- What is there cannot be made. -/
theorem makeDirectory_error_of_isDirectory (there : t.isDirectory here p = .ok true) :
    ∃ fault, t.makeDirectory here p = .error fault ∧ fault ≠ .notFound := by
  obtain ⟨place, found, holds⟩ := isDirectory_iff.1 there
  obtain ⟨noNul, fits, walked⟩ := find_eq_ok found
  rw [← List.append_nil p.names] at walked
  obtain ⟨entry, reached⟩ := walk_entry_of_walk_target walked
  rw [List.append_nil] at walked
  have foundEntry : t.find here p .entry = .ok entry := by rw [find_eq_walk noNul fits, reached]
  refine ⟨.alreadyExists, ?_, by decide⟩
  rw [makeDirectory, bind_of_ok foundEntry]
  cases held : t.nodeAt entry with
  | some node => rfl
  | none =>
    -- The entry is no link then, so that it is the directory itself.
    have absent := (eq_of_nodeAt_eq_none held).2
    have same := walk_target_of_walk_entry reached fun target linked => by
      rw [absent] at linked
      cases linked
    rw [walked] at same
    cases same
    rw [held] at holds
    cases holds

/-- Where a directory is there already, making it does nothing. -/
theorem makeDirectories_of_isDirectory (there : t.isDirectory here p = .ok true) :
    t.makeDirectories here depth p = (.ok (), t) := by
  obtain ⟨fault, failed, other⟩ := makeDirectory_error_of_isDirectory there
  unfold makeDirectories
  simp only [failed, settle, there]

/-- A directory that was made is at a place where nothing was. -/
theorem makeDirectory_eq_ok (made : t.makeDirectory here p = .ok t') :
    ∃ place, t.find here p .entry = .ok place ∧ t.nodeAt place = none ∧
      t' = t.set place.location .directory ∧ t'.find here p .target = .ok place ∧
      t'.nodeAt place = some .directory := by
  obtain ⟨place, found, made⟩ := exists_of_bind_eq_ok made
  obtain ⟨noNul, fits, walked⟩ := find_eq_ok found
  split at made
  · cases made
  · next held =>
    cases made
    obtain ⟨standing, absent⟩ := eq_of_nodeAt_eq_none held
    have notRoot := ne_root_of_get?_eq_none absent
    have new : (t.set place.location .directory).get? place.location = some .directory :=
      get?_set_self notRoot
    have reached := walk_target_of_walk_entry walked fun target linked => by
      rw [absent] at linked
      cases linked
    have grown : Grows t (t.set place.location .directory) := grows_set absent
    have reachedNew := walk_eq_ok_of_no_link grown.retains reached
      fun _ target linked => by
        rw [new] at linked
        cases linked
    exact ⟨place, found, held, rfl, by rw [find_eq_walk noNul fits, reachedNew],
      by rw [nodeAt, if_pos standing, new]⟩

theorem isDirectory_of_makeDirectory (made : t.makeDirectory here p = .ok t') :
    t'.isDirectory here p = .ok true := by
  obtain ⟨place, -, -, -, found, there⟩ := makeDirectory_eq_ok made
  exact isDirectory_iff.2 ⟨place, found, there⟩

theorem isDirectory_of_settle {fault : Fault} (settled : t.settle here p fault = .ok ()) :
    t.isDirectory here p = .ok true := by
  unfold settle at settled
  split at settled
  · assumption
  · cases settled
  · cases settled

/-- A directory that was made is there. -/
theorem isDirectory_of_makeDirectories (made : t.makeDirectories here depth p = (.ok (), t')) :
    t'.isDirectory here p = .ok true := by
  unfold makeDirectories at made
  split at made
  · next new =>
    cases made
    exact isDirectory_of_makeDirectory new
  · split at made
    · cases made
    · split at made
      · cases made
      · next above =>
        split at made
        · cases made
        · split at made
          · next new =>
            cases made
            exact isDirectory_of_makeDirectory new
          · cases made
          · injection made with settled same
            rw [← same]
            exact isDirectory_of_settle settled
  · injection made with settled same
    rw [← same]
    exact isDirectory_of_settle settled

/-! ## What is in a directory -/

/-- The names in a directory, which a path leads to, lead to the entries of a place: to the entries
themselves, and to what they stand for if they are no links. -/
structure Houses (t : FileTree) (here : Place) (directory : Path) (place : Place) : Prop where
  entry : ∀ {t' name}, Retains t t' → UsableIn directory name →
    t'.find here (directory.child name) .entry = .ok (place.child name)
  plain : ∀ {t' name}, Retains t t' → UsableIn directory name →
    (∀ target, t'.get? (place.child name).location ≠ some (.link target)) →
    ∀ purpose, t'.find here (directory.child name) purpose = .ok (place.child name)

theorem Houses.of_retains (houses : Houses t here directory place) (retains : Retains t t') :
    Houses t' here directory place :=
  ⟨fun later => houses.entry (retains.trans later), fun later => houses.plain (retains.trans later)⟩

/-- The names in a directory are looked up from its place. -/
theorem find_child (found : t.find here directory .target = .ok place)
    (holds : t.nodeAt place = some .directory) :
    ∃ left, ∀ t' name purpose, Retains t t' → name ≠ "" →
      (directory.child name).text.toList.contains '\x00' = false →
      ¬maxPathSize < (directory.child name).text.utf8ByteSize →
      t'.find here (directory.child name) purpose = t'.walk purpose left place [name] := by
  obtain ⟨-, -, walked⟩ := find_eq_ok found
  obtain ⟨left, leads⟩ := walk_append_of_directory walked holds
  refine ⟨left, fun t' name purpose retains named noNul fits => ?_⟩
  rw [find_eq_walk noNul fits]
  exact leads t' retains purpose [name] (.inr ⟨by simp, by simpa using named⟩)

/-- A directory has its entries at a place, or it was removed and can have none. -/
theorem houses_or_removed (there : t.isDirectory here directory = .ok true) :
    (∃ place, Houses t here directory place) ∨
      ∀ t' name, Retains t t' → UsableIn directory name → ∀ purpose,
        t'.find here (directory.child name) purpose = .error .notFound := by
  obtain ⟨place, found, holds⟩ := isDirectory_iff.1 there
  obtain ⟨left, leads⟩ := find_child found holds
  have leads : ∀ t' name, Retains t t' → UsableIn directory name → ∀ purpose,
      t'.find here (directory.child name) purpose = t'.walk purpose left place [name] := by
    intro t' name retains usable purpose
    obtain ⟨plain, -, fits, noNul⟩ := usable
    exact leads t' name purpose retains plain.ne_empty noNul (Nat.not_lt.2 fits)
  by_cases standing : place.lost = 0
  · refine .inl ⟨place, ?_⟩
    have looks : ∀ {t' : FileTree} {name : String} {purpose : Purpose}, UsableIn directory name →
        (purpose = .entry ∨ ∀ target, t'.get? (place.child name).location ≠ some (.link target)) →
        t'.walk purpose left place [name] = .ok (place.child name) := by
      intro t' name purpose usable ends
      obtain ⟨plain, fits, -, -⟩ := usable
      rw [walk_plain plain.not_skipped plain.not_up (by simp) (by simp [standing]) (Nat.not_lt.2 fits)]
      split
      · exact walk_nil
      · rfl
      · next target linked =>
        rcases ends with rfl | noLink
        · rfl
        · exact absurd linked (noLink target)
      · rfl
    exact {
      entry := fun retains usable => (leads _ _ retains usable _).trans (looks usable (.inl rfl))
      plain := fun retains usable noLink purpose =>
        (leads _ _ retains usable purpose).trans (looks usable (.inr noLink)) }
  · refine .inr fun t' name retains usable purpose => ?_
    rw [leads t' name retains usable purpose]
    obtain ⟨plain, -, -, -⟩ := usable
    rw [walk, if_neg plain.not_skipped, if_neg plain.not_up]
    simp [standing]

/-! ## Files in a directory -/

variable {content octets : List UInt8} {l : Location}

theorem Houses.linkTarget?_eq_none_iff (houses : Houses t here directory place)
    (usable : UsableIn directory name) :
    t.linkTarget? here (directory.child name) = none ↔
      ∀ target, t.get? (place.child name).location ≠ some (.link target) := by
  simp only [linkTarget?, houses.entry (Retains.refl t) usable, nodeAt_child]
  split <;> simp_all

theorem Houses.read_eq_ok_iff (houses : Houses t here directory place) (usable : UsableIn directory name)
    (noLink : ∀ target, t.get? (place.child name).location ≠ some (.link target)) :
    t.read here (directory.child name) = .ok octets ↔
      t.get? (place.child name).location = some (.file octets) := by
  have found := houses.plain (Retains.refl t) usable noLink .target
  constructor
  · intro read
    obtain ⟨l, found', there⟩ := read_eq_ok read
    rw [found] at found'
    cases found'
    exact there
  · exact read_eq_content found

/-- A file that is opened in a directory, and is no link, is opened at its own entry. -/
theorem Houses.location_of_openFile (houses : Houses t here directory place)
    (usable : UsableIn directory name)
    (noLink : ∀ target, t.get? (place.child name).location ≠ some (.link target))
    (opened : t.openFile here (directory.child name) = .ok (l, t')) :
    l = (place.child name).location := by
  have found := houses.plain (Retains.refl t) usable noLink .file
  rw [(openFile_eq_ok opened).1] at found
  cases found
  rfl

end Checkin.FileTree

import Checkin.Proofs.Basic
import Checkin.Proofs.FileTree.Walk

/-!
# Changes to a tree

What the changes leave alone. Directories are only ever added (`Grows`); a file is opened at the location
where looking then finds it; what is written to a file changes no other location, and what is appended to one
stays behind what was in it.
-/

namespace Checkin.FileTree

/-- Everything in a tree is unchanged in another one, which may hold more. -/
def Grows (t t' : FileTree) : Prop :=
  ∀ ⦃l node⦄, t.get? l = some node → t'.get? l = some node

variable {t t' : FileTree} {here place : Place} {l other : Location} {p : Path} {node : Node}
  {content before added more : List UInt8}

theorem Grows.refl (t : FileTree) : Grows t t :=
  fun _ _ found => found

theorem Grows.trans {t'' : FileTree} (h : Grows t t') (h' : Grows t' t'') : Grows t t'' :=
  fun _ _ found => h' (h found)

theorem Grows.retains (h : Grows t t') : Retains t t' :=
  ⟨fun found => h found, fun found => h found, fun found => ⟨_, h found⟩⟩

theorem ne_root_of_get?_eq_none (absent : t.get? l = none) : l ≠ [] := by
  rintro rfl
  cases absent

theorem ne_root_of_get?_eq_file (found : t.get? l = some (.file content)) : l ≠ [] := by
  rintro rfl
  cases found

theorem get?_set_self (notRoot : l ≠ []) : (t.set l node).get? l = some node := by
  simp [get?_set _ _ _ notRoot]

theorem get?_set_of_ne (notRoot : l ≠ []) (distinct : other ≠ l) :
    (t.set l node).get? other = t.get? other := by
  simp [get?_set _ _ _ notRoot, distinct]

theorem grows_set (absent : t.get? l = none) : Grows t (t.set l node) := by
  intro other node' found
  have distinct : other ≠ l := by
    rintro rfl
    rw [found] at absent
    cases absent
  rw [get?_set_of_ne (ne_root_of_get?_eq_none absent) distinct, found]

theorem retains_set_file (found : t.get? l = some (.file before)) :
    Retains t (t.set l (.file content)) := by
  have notRoot := ne_root_of_get?_eq_file found
  have elsewhere : ∀ {other node}, t.get? other = some node → (∀ c, node ≠ .file c) →
      (t.set l (.file content)).get? other = some node := by
    intro other node there notFile
    have distinct : other ≠ l := by
      rintro rfl
      rw [found] at there
      cases there
      exact notFile _ rfl
    rw [get?_set_of_ne notRoot distinct, there]
  refine ⟨fun h => elsewhere h (by simp), fun h => elsewhere h (by simp), ?_⟩
  intro other content' there
  by_cases same : other = l
  · exact ⟨content, by rw [same, get?_set_self notRoot]⟩
  · exact ⟨content', by rw [get?_set_of_ne notRoot same, there]⟩

/-! ## Finding again -/

theorem find_eq_ok {purpose : Purpose} (found : t.find here p purpose = .ok place) :
    p.text.toList.contains '\x00' = false ∧ ¬maxPathSize < p.text.utf8ByteSize ∧
      t.walk purpose maxLinks (if p.isAbsolute then .root else here) p.names = .ok place := by
  unfold find at found
  split at found
  · cases found
  · next noNul =>
    split at found
    · cases found
    · next fits => exact ⟨by simpa using noNul, fits, found⟩

theorem find_eq_walk {purpose : Purpose} (noNul : p.text.toList.contains '\x00' = false)
    (fits : ¬maxPathSize < p.text.utf8ByteSize) :
    t.find here p purpose = t.walk purpose maxLinks (if p.isAbsolute then .root else here) p.names := by
  simp only [find, noNul, if_neg fits, Bool.false_eq_true, if_false]

theorem find_eq_ok_of_retains {purpose : Purpose} (retains : Retains t t')
    (found : t.find here p purpose = .ok place)
    (there : t.get? place.location = none → ∃ content, t'.get? place.location = some (.file content)) :
    t'.find here p purpose = .ok place := by
  obtain ⟨noNul, fits, walked⟩ := find_eq_ok found
  rw [find_eq_walk noNul fits]
  exact walk_eq_ok_of_retains retains walked there

theorem find_target_of_find_file (found : t.find here p .file = .ok place) :
    t.find here p .target = .ok place := by
  obtain ⟨noNul, fits, walked⟩ := find_eq_ok found
  rw [find_eq_walk noNul fits]
  exact walk_target_of_walk_file walked

theorem nodeAt_child (t : FileTree) (place : Place) (name : String) :
    t.nodeAt (place.child name) = t.get? (place.child name).location :=
  if_pos rfl

theorem eq_of_nodeAt_eq_file (found : t.nodeAt place = some (.file content)) :
    place.lost = 0 ∧ t.get? place.location = some (.file content) := by
  unfold nodeAt at found
  split at found
  · next standing => exact ⟨standing, found⟩
  · cases found

theorem eq_of_nodeAt_eq_none (absent : t.nodeAt place = none) :
    place.lost = 0 ∧ t.get? place.location = none := by
  unfold nodeAt at absent
  split at absent
  · next standing => exact ⟨standing, absent⟩
  · cases absent

/-- A file is read where its path is found. -/
theorem read_eq_ok (read : t.read here p = .ok content) :
    ∃ l, t.find here p .target = .ok ⟨l, 0⟩ ∧ t.get? l = some (.file content) := by
  obtain ⟨node, looked, read⟩ := exists_of_bind_eq_ok read
  obtain ⟨place, found, held⟩ := exists_of_bind_eq_ok looked
  cases node with
  | directory | link => cases read
  | file there =>
    cases read
    split at held
    · next node held' =>
      cases held
      obtain ⟨standing, there⟩ := eq_of_nodeAt_eq_file held'
      exact ⟨place.location, by rw [found, ← standing], there⟩
    · cases held

theorem stat_eq_file (found : t.find here p .target = .ok ⟨l, 0⟩)
    (there : t.get? l = some (.file content)) : t.stat here p = .ok (.file content) := by
  rw [stat, bind_of_ok found]
  simp [nodeAt, there]

theorem read_eq_content (found : t.find here p .target = .ok ⟨l, 0⟩)
    (there : t.get? l = some (.file content)) : t.read here p = .ok content := by
  exact bind_of_ok (stat_eq_file found there)

theorem linkTarget?_of_nothing
    (nothing : ∀ place, t.find here p .entry = .ok place → t.nodeAt place = none) :
    t.linkTarget? here p = none := by
  unfold linkTarget?
  split
  · next place found => rw [nothing place found]
  · rfl

theorem linkTarget?_of_file (found : t.find here p .entry = .ok ⟨l, 0⟩)
    (there : t.get? l = some (.file content)) : t.linkTarget? here p = none := by
  simp [linkTarget?, found, nodeAt, there]

/-- A name can be that of an entry, and below a path it makes a path that is not too long. -/
def UsableIn (directory : Path) (name : String) : Prop :=
  IsPlain name ∧ name.utf8ByteSize ≤ maxNameSize ∧
    (directory.child name).text.utf8ByteSize ≤ maxPathSize ∧
    (directory.child name).text.toList.contains '\x00' = false

instance (directory : Path) (name : String) : Decidable (UsableIn directory name) :=
  inferInstanceAs (Decidable (_ ∧ _))

theorem usableIn_of_find {directory : Path} {name : String} {purpose : Purpose}
    (plain : IsPlain name) (short : name.utf8ByteSize ≤ maxNameSize)
    (found : t.find here (directory.child name) purpose = .ok place) : UsableIn directory name := by
  obtain ⟨noNul, fits, -⟩ := find_eq_ok found
  exact ⟨plain, short, Nat.not_lt.1 fits, noNul⟩

/-- What is at the root is found by its name, unless the name is that of a link. -/
theorem find_atRoot_of_not_link {name : String} (usable : UsableIn ⟨.absolute, []⟩ name)
    (notLink : ∀ target, t.get? [name] ≠ some (.link target)) (purpose : Purpose) :
    t.find here ⟨.absolute, [name]⟩ purpose = .ok ⟨[name], 0⟩ := by
  obtain ⟨plain, fits, short, noNul⟩ := usable
  show t.find here ((⟨.absolute, []⟩ : Path).child name) purpose = _
  rw [find_eq_walk noNul (Nat.not_lt.2 short)]
  show t.walk purpose maxLinks .root [name] = _
  rw [walk_plain plain.not_skipped plain.not_up (by simp) (by decide) (Nat.not_lt.2 fits)]
  split
  · rw [walk]
    rfl
  · rfl
  · next target there => exact absurd there (notLink target)
  · rfl

theorem find_atRoot {name : String} (usable : UsableIn ⟨.absolute, []⟩ name)
    (there : t.get? [name] = some (.file content)) (purpose : Purpose) :
    t.find here ⟨.absolute, [name]⟩ purpose = .ok ⟨[name], 0⟩ :=
  find_atRoot_of_not_link usable (by simp [there]) purpose

/-- A file at the root is read under its name. -/
theorem read_root {name : String} (usable : UsableIn ⟨.absolute, []⟩ name)
    (there : t.get? [name] = some (.file content)) : t.read here ⟨.absolute, [name]⟩ = .ok content :=
  read_eq_content (find_atRoot usable there .target) there

theorem exists?_eq_true (found : t.find here p .target = .ok ⟨l, 0⟩)
    (there : t.get? l = some (.file content)) : t.exists? here p = .ok true := by
  simp [exists?, stat_eq_file found there]

/-! ## Directories -/

theorem makeDirectory_grows (made : t.makeDirectory here p = .ok t') : Grows t t' := by
  obtain ⟨place, -, made⟩ := exists_of_bind_eq_ok made
  split at made
  · cases made
  · next absent =>
    cases made
    exact grows_set (eq_of_nodeAt_eq_none absent).2

theorem makeDirectories_grows (t : FileTree) (here : Place) (depth : Nat) (p : Path) :
    Grows t (t.makeDirectories here depth p).2 := by
  fun_induction makeDirectories t here depth p with
  | case1 _ _ _ made => exact makeDirectory_grows made
  | case2 | case3 | case8 => exact Grows.refl t
  | case4 _ _ _ _ _ _ stopped ih => rwa [stopped] at ih
  | case5 _ _ _ _ _ above _ made ih =>
    rw [above] at ih
    exact ih.trans (makeDirectory_grows made)
  | case6 _ _ _ _ _ above _ ih | case7 _ _ _ _ _ above _ _ _ ih => rwa [above] at ih

/-! ## Files -/

/-- A file that was opened is where its path leads, and was made empty unless it was there. -/
theorem openFile_eq_ok (opened : t.openFile here p = .ok (l, t')) :
    t.find here p .file = .ok ⟨l, 0⟩ ∧
      ((∃ content, t.get? l = some (.file content)) ∧ t' = t ∨
        t.get? l = none ∧ t' = t.set l (.file [])) := by
  obtain ⟨⟨location, lost⟩, found, opened⟩ := exists_of_bind_eq_ok opened
  split at opened
  · next content there =>
    cases opened
    obtain ⟨rfl, there⟩ := eq_of_nodeAt_eq_file there
    exact ⟨found, .inl ⟨⟨_, there⟩, rfl⟩⟩
  · cases opened
  · next absent =>
    cases opened
    obtain ⟨rfl, absent⟩ := eq_of_nodeAt_eq_none absent
    exact ⟨found, .inr ⟨absent, rfl⟩⟩

/-- A file that is there is opened as it is. -/
theorem openFile_of_file (found : t.find here p .file = .ok ⟨l, 0⟩)
    (there : t.get? l = some (.file content)) : t.openFile here p = .ok (l, t) := by
  rw [openFile, bind_of_ok found]
  simp [nodeAt, there]

theorem openFile_grows (opened : t.openFile here p = .ok (l, t')) : Grows t t' := by
  obtain ⟨-, ⟨-, rfl⟩ | ⟨absent, rfl⟩⟩ := openFile_eq_ok opened
  · exact Grows.refl t'
  · exact grows_set absent

theorem get?_of_openFile (opened : t.openFile here p = .ok (l, t')) :
    ∃ content, t'.get? l = some (.file content) := by
  obtain ⟨-, ⟨there, rfl⟩ | ⟨absent, rfl⟩⟩ := openFile_eq_ok opened
  · exact there
  · exact ⟨[], get?_set_self (ne_root_of_get?_eq_none absent)⟩

/-- What is written to an opened file changes no other location. -/
theorem get?_set_of_openFile (opened : t.openFile here p = .ok (l, t')) :
    (t'.set l node).get? other = if other = l then some node else t.get? other := by
  obtain ⟨content, there⟩ := get?_of_openFile opened
  have notRoot := ne_root_of_get?_eq_file there
  split
  · next same => rw [same, get?_set_self notRoot]
  · next distinct =>
    rw [get?_set_of_ne notRoot distinct]
    obtain ⟨-, ⟨-, rfl⟩ | ⟨-, rfl⟩⟩ := openFile_eq_ok opened
    · rfl
    · exact get?_set_of_ne notRoot distinct

theorem retains_set_of_openFile (opened : t.openFile here p = .ok (l, t')) :
    Retains t (t'.set l (.file content)) := by
  obtain ⟨before, there⟩ := get?_of_openFile opened
  exact (openFile_grows opened).retains.trans (retains_set_file there)

/-- Looking finds an opened file from then on, whatever else is added to the tree. -/
theorem find_of_openFile {t'' : FileTree} (opened : t.openFile here p = .ok (l, t'))
    (retains : Retains t' t'') : t''.find here p .target = .ok ⟨l, 0⟩ := by
  obtain ⟨found, -⟩ := openFile_eq_ok opened
  obtain ⟨content, there⟩ := get?_of_openFile opened
  refine find_eq_ok_of_retains ((openFile_grows opened).retains.trans retains)
    (find_target_of_find_file found) fun _ => retains.file there

theorem write_eq (t : FileTree) (here : Place) (p : Path) (content : List UInt8) :
    t.write here p content =
      (t.openFile here p).map fun opened => opened.2.set opened.1 (.file content) := by
  unfold write
  cases t.openFile here p <;> rfl

theorem retains_append (t : FileTree) (l : Location) (content : List UInt8) :
    Retains t (t.append l content) := by
  unfold append
  split
  · next before there => exact retains_set_file there
  · exact Retains.refl t

theorem get?_append_of_ne (distinct : other ≠ l) :
    (t.append l content).get? other = t.get? other := by
  unfold append
  split
  · next before there => exact get?_set_of_ne (ne_root_of_get?_eq_file there) distinct
  · rfl

/-! ## Appending -/

/-- A tree differs from another one in no more than a file that is new or has more content at its end. -/
structure Appended (t t' : FileTree) (l : Location) (added : List UInt8) : Prop where
  elsewhere : ∀ other, other ≠ l → t'.get? other = t.get? other
  there : t.get? l = none ∧ t'.get? l = some (.file added) ∨
    ∃ before, t.get? l = some (.file before) ∧ t'.get? l = some (.file (before ++ added))

theorem get?_append_self (there : t.get? l = some (.file before)) :
    (t.append l more).get? l = some (.file (before ++ more)) := by
  unfold append
  rw [there]
  exact get?_set_self (ne_root_of_get?_eq_file there)

/-- A file that was opened to be appended to is as it was, or new and empty. -/
theorem appended_of_openFile (opened : t.openFile here p = .ok (l, t')) : Appended t t' l [] := by
  obtain ⟨-, ⟨⟨content, there⟩, rfl⟩ | ⟨absent, rfl⟩⟩ := openFile_eq_ok opened
  · exact ⟨fun _ _ => rfl, .inr ⟨content, there, by rw [there, List.append_nil]⟩⟩
  · have notRoot := ne_root_of_get?_eq_none absent
    exact ⟨fun _ distinct => get?_set_of_ne notRoot distinct, .inl ⟨absent, get?_set_self notRoot⟩⟩

theorem Appended.append (appended : Appended t t' l added) (more : List UInt8) :
    Appended t (t'.append l more) l (added ++ more) := by
  obtain ⟨elsewhere, there⟩ := appended
  refine ⟨fun other distinct => by rw [get?_append_of_ne distinct, elsewhere other distinct], ?_⟩
  rcases there with ⟨absent, there⟩ | ⟨before, was, there⟩
  · exact .inl ⟨absent, get?_append_self there⟩
  · refine .inr ⟨before, was, ?_⟩
    rw [get?_append_self there, List.append_assoc]

end Checkin.FileTree

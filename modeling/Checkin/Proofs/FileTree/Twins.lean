import Checkin.FileTree.Resolution
import Checkin.Proofs.FileTree.Change

/-!
# Trees that differ in one file

Two trees that differ in no more than what is in one file look the same to all that does not read this file.
What is changed elsewhere in both of them leaves them so.
-/

namespace Checkin.FileTree

variable {l : Location} {x x' : List UInt8} {t t' : FileTree} {purpose : Purpose} {here place : Place}
  {p : Path} {node : Node}

/-- A file has one content in the first tree and another in the second one, and all else is the same. -/
structure Twins (l : Location) (x x' : List UInt8) (t t' : FileTree) : Prop where
  elsewhere : ∀ other, other ≠ l → t'.get? other = t.get? other
  left : t.get? l = some (.file x)
  right : t'.get? l = some (.file x')

namespace Twins

theorem refl (there : t.get? l = some (.file x)) : Twins l x x t t :=
  ⟨fun _ _ => rfl, there, there⟩

/-! ## Walks -/

theorem get?_cases (twins : Twins l x x' t t') (other : Location) :
    t'.get? other = t.get? other ∨
      other = l ∧ t.get? other = some (.file x) ∧ t'.get? other = some (.file x') := by
  by_cases same : other = l
  · exact .inr ⟨same, same ▸ twins.left, same ▸ twins.right⟩
  · exact .inl (twins.elsewhere other same)

theorem get?_of_not_file (twins : Twins l x x' t t') {other : Location} {node? : Option Node}
    (found : t.get? other = node?) (noFile : ∀ content, node? ≠ some (.file content)) :
    t'.get? other = node? := by
  rcases twins.get?_cases other with same | ⟨-, file, -⟩
  · rw [same, found]
  · exact absurd (found.symm.trans file) (noFile x)

theorem get?_of_file (twins : Twins l x x' t t') {other : Location} {content : List UInt8}
    (found : t.get? other = some (.file content)) : ∃ content', t'.get? other = some (.file content') := by
  rcases twins.get?_cases other with same | ⟨-, -, file⟩
  · exact ⟨content, same.trans found⟩
  · exact ⟨x', file⟩

theorem walk (twins : Twins l x x' t t') (purpose : Purpose) (links : Nat) (here : Place)
    (names : List String) :
    t'.walk purpose links here names = t.walk purpose links here names := by
  fun_induction FileTree.walk t purpose links here names with
  | case1 => rw [walk_nil]
  | case2 _ _ _ _ skipped ih => rw [walk_skip skipped, ih]
  | case3 _ _ _ _ ih => rw [walk_up, ih]
  | case4 _ _ _ _ plain notUp slashed => rw [FileTree.walk, if_neg plain, if_neg notUp, if_pos slashed]
  | case5 _ _ _ _ plain notUp notSlashed lost =>
    rw [FileTree.walk, if_neg plain, if_neg notUp, if_neg notSlashed, if_pos lost]
  | case6 _ _ _ _ plain notUp notSlashed standing long =>
    rw [FileTree.walk, if_neg plain, if_neg notUp, if_neg notSlashed, if_neg standing, if_pos long]
  | case7 _ _ _ _ plain notUp notSlashed standing fits _ found ih =>
    rw [walk_plain plain notUp notSlashed standing fits, twins.get?_of_not_file found (by simp)]
    exact ih
  | case8 _ _ _ plain notUp standing fits _ _ found notSlashed =>
    obtain ⟨content', found'⟩ := twins.get?_of_file found
    rw [walk_plain plain notUp notSlashed standing fits, found']
    rfl
  | case9 _ _ _ _ plain notUp notSlashed standing fits _ _ found more =>
    obtain ⟨content', found'⟩ := twins.get?_of_file found
    rw [walk_plain plain notUp notSlashed standing fits, found']
    exact if_neg more
  | case10 _ _ _ _ plain notUp notSlashed standing fits _ _ found ends =>
    rw [walk_plain plain notUp notSlashed standing fits, twins.get?_of_not_file found (by simp)]
    exact if_pos ends
  | case11 _ _ _ plain notUp notSlashed standing fits _ _ found goesOn =>
    rw [walk_plain plain notUp notSlashed standing fits, twins.get?_of_not_file found (by simp)]
    exact if_neg goesOn
  | case12 _ _ _ plain notUp notSlashed standing fits _ _ found goesOn _ ih =>
    rw [walk_plain plain notUp notSlashed standing fits, twins.get?_of_not_file found (by simp)]
    exact (if_neg goesOn).trans ih
  | case13 _ _ _ plain notUp standing fits _ absent notSlashed =>
    rw [walk_plain plain notUp notSlashed standing fits, twins.get?_of_not_file absent (by simp)]
    rfl
  | case14 _ _ _ _ plain notUp notSlashed standing fits _ absent more =>
    rw [walk_plain plain notUp notSlashed standing fits, twins.get?_of_not_file absent (by simp)]
    exact if_neg more

theorem find (twins : Twins l x x' t t') (here : Place) (p : Path) (purpose : Purpose) :
    t'.find here p purpose = t.find here p purpose := by
  simp only [FileTree.find, twins.walk]

/-! ## Looking -/

theorem nodeAt_cases (twins : Twins l x x' t t') (place : Place) :
    t'.nodeAt place = t.nodeAt place ∨
      place = ⟨l, 0⟩ ∧ t.nodeAt place = some (.file x) ∧ t'.nodeAt place = some (.file x') := by
  obtain ⟨location, lost⟩ := place
  by_cases standing : lost = 0
  · subst standing
    rcases twins.get?_cases location with same | ⟨rfl, left, right⟩
    · exact .inl (by simp only [nodeAt, if_true, same])
    · exact .inr ⟨rfl, by simp only [nodeAt, if_true, left], by simp only [nodeAt, if_true, right]⟩
  · exact .inl (by simp only [nodeAt, if_neg standing])

/-- A path names the same thing in both trees, or it leads to the file. -/
theorem stat_cases (twins : Twins l x x' t t') (here : Place) (p : Path) :
    t'.stat here p = t.stat here p ∨
      t.find here p .target = .ok ⟨l, 0⟩ ∧ t.stat here p = .ok (.file x) ∧
        t'.stat here p = .ok (.file x') := by
  have sameFind := twins.find here p .target
  cases found : t.find here p .target with
  | error fault =>
    rw [found] at sameFind
    exact .inl (by rw [stat, stat, bind_of_error found, bind_of_error sameFind])
  | ok place =>
    rw [found] at sameFind
    rw [stat, stat, bind_of_ok found, bind_of_ok sameFind]
    rcases twins.nodeAt_cases place with same | ⟨rfl, left, right⟩
    · exact .inl (by rw [same])
    · exact .inr ⟨rfl, by rw [left], by rw [right]⟩

theorem exists? (twins : Twins l x x' t t') (here : Place) (p : Path) :
    t'.exists? here p = t.exists? here p := by
  unfold FileTree.exists?
  rcases twins.stat_cases here p with same | ⟨-, left, right⟩
  · rw [same]
  · rw [left, right]

theorem isDirectory (twins : Twins l x x' t t') (here : Place) (p : Path) :
    t'.isDirectory here p = t.isDirectory here p := by
  unfold FileTree.isDirectory
  rcases twins.stat_cases here p with same | ⟨-, left, right⟩
  · rw [same]
  · rw [left, right]
    rfl

/-- What a path leads to is read alike, unless it is the file. -/
theorem read (twins : Twins l x x' t t') (elsewhere : t.find here p .target ≠ .ok ⟨l, 0⟩) :
    t'.read here p = t.read here p := by
  rcases twins.stat_cases here p with same | ⟨found, -⟩
  · simp only [FileTree.read, same]
  · exact absurd found elsewhere

theorem linkTarget? (twins : Twins l x x' t t') (here : Place) (p : Path) :
    t'.linkTarget? here p = t.linkTarget? here p := by
  unfold FileTree.linkTarget?
  rw [twins.find]
  cases t.find here p .entry with
  | error fault => rfl
  | ok place =>
    rcases twins.nodeAt_cases place with same | ⟨-, left, right⟩
    · simp only [same]
    · simp only [left, right]

theorem followLinks (twins : Twins l x x' t t') (here : Place) (depth : Nat) (known : Known) (done : Path)
    (pieces : List String) :
    t'.followLinks here depth known done pieces = t.followLinks here depth known done pieces := by
  fun_induction FileTree.followLinks t here depth known done pieces with
  | case1 => rw [FileTree.followLinks]
  | case2 _ _ _ _ _ skipped ih => rw [FileTree.followLinks, if_pos skipped, ih]
  | case3 _ _ _ _ plain ih => rw [FileTree.followLinks, if_neg plain, if_pos rfl, ih]
  | case4 _ _ done name _ plain notUp next noLink ih =>
    have there : done.child name = next := rfl
    rw [FileTree.followLinks, if_neg plain, if_neg notUp]
    simp only [there, twins.linkTarget?, noLink, ih]
  | case5 _ _ done name _ plain notUp next _ linked _ seen ih =>
    have there : done.child name = next := rfl
    rw [FileTree.followLinks, if_neg plain, if_neg notUp]
    simp only [there, twins.linkTarget?, linked, seen, ih]
  | case6 _ _ done name _ plain notUp next _ linked seen =>
    have there : done.child name = next := rfl
    rw [FileTree.followLinks, if_neg plain, if_neg notUp]
    simp only [there, twins.linkTarget?, linked, seen]
  | case7 _ done name _ plain notUp next _ linked unseen =>
    have there : done.child name = next := rfl
    rw [FileTree.followLinks, if_neg plain, if_neg notUp]
    simp only [there, twins.linkTarget?, linked, unseen]
  | case8 _ done name _ plain notUp next _ linked unseen _ _ _ starts _ _ reached ih ih' =>
    have there : done.child name = next := rfl
    rw [FileTree.followLinks, if_neg plain, if_neg notUp]
    simp only [there, twins.linkTarget?, linked, unseen, starts, ih, reached, ih']
  | case9 _ done name _ plain notUp next _ linked unseen _ _ _ starts _ looped ih =>
    have there : done.child name = next := rfl
    rw [FileTree.followLinks, if_neg plain, if_neg notUp]
    simp only [there, twins.linkTarget?, linked, unseen, starts, ih, looped]
  | case10 _ done name _ plain notUp next _ linked unseen _ _ _ starts tooDeep ih =>
    have there : done.child name = next := rfl
    rw [FileTree.followLinks, if_neg plain, if_neg notUp]
    simp only [there, twins.linkTarget?, linked, unseen, starts, ih, tooDeep]

theorem resolve (twins : Twins l x x' t t') (here : Place) (depth : Nat) (p : Path) :
    t'.resolve here depth p = t.resolve here depth p := by
  simp only [FileTree.resolve, twins.followLinks]

/-! ## Changing -/

theorem set (twins : Twins l x x' t t') {other : Location} (notRoot : other ≠ []) (distinct : other ≠ l) :
    Twins l x x' (t.set other node) (t'.set other node) := by
  refine ⟨fun m apart => ?_, ?_, ?_⟩
  · by_cases same : m = other
    · rw [same, get?_set_self notRoot, get?_set_self notRoot]
    · rw [get?_set_of_ne notRoot same, get?_set_of_ne notRoot same, twins.elsewhere m apart]
  · rw [get?_set_of_ne notRoot distinct.symm, twins.left]
  · rw [get?_set_of_ne notRoot distinct.symm, twins.right]

/-- What is new is not the file. -/
theorem set_of_absent (twins : Twins l x x' t t') {other : Location} (absent : t.get? other = none) :
    Twins l x x' (t.set other node) (t'.set other node) := by
  refine twins.set (ne_root_of_get?_eq_none absent) ?_
  rintro rfl
  rw [twins.left] at absent
  cases absent

theorem append_right (twins : Twins l x x' t t') (more : List UInt8) :
    Twins l x (x' ++ more) t (t'.append l more) :=
  ⟨fun other apart => by rw [get?_append_of_ne apart, twins.elsewhere other apart], twins.left,
    get?_append_self twins.right⟩

theorem makeDirectory_of_error (twins : Twins l x x' t t') {fault : Fault}
    (failed : t.makeDirectory here p = .error fault) : t'.makeDirectory here p = .error fault := by
  have sameFind := twins.find here p .entry
  rcases error_of_bind_eq_error failed with failed | ⟨place, found, failed⟩
  · exact bind_of_error (sameFind.trans failed)
  · rw [FileTree.makeDirectory, bind_of_ok (sameFind.trans found)]
    rcases twins.nodeAt_cases place with same | ⟨-, left, right⟩
    · rw [same]
      split at failed
      · exact failed
      · cases failed
    · rw [left] at failed
      rw [right]
      exact failed

theorem makeDirectory_of_ok (twins : Twins l x x' t t') {u : FileTree}
    (made : t.makeDirectory here p = .ok u) :
    ∃ u', t'.makeDirectory here p = .ok u' ∧ Twins l x x' u u' := by
  obtain ⟨place, found, made⟩ := exists_of_bind_eq_ok made
  split at made
  · cases made
  · next absent =>
    cases made
    have absent' : t'.nodeAt place = none := by
      rcases twins.nodeAt_cases place with same | ⟨-, left, -⟩
      · rw [same, absent]
      · rw [left] at absent
        cases absent
    refine ⟨_, ?_, twins.set_of_absent (eq_of_nodeAt_eq_none absent).2⟩
    rw [FileTree.makeDirectory, bind_of_ok ((twins.find here p .entry).trans found), absent']

theorem settle (twins : Twins l x x' t t') (here : Place) (p : Path) (fault : Fault) :
    t'.settle here p fault = t.settle here p fault := by
  simp only [FileTree.settle, twins.isDirectory]

/-- Directories are made alike, or making them stops alike. -/
theorem makeDirectories (twins : Twins l x x' t t') (here : Place) (depth : Nat) (p : Path) :
    ∃ u', t'.makeDirectories here depth p = ((t.makeDirectories here depth p).1, u') ∧
      Twins l x x' (t.makeDirectories here depth p).2 u' := by
  fun_induction FileTree.makeDirectories t here depth p with
  | case1 _ _ _ made =>
    obtain ⟨u', made', alike⟩ := twins.makeDirectory_of_ok made
    exact ⟨u', by unfold FileTree.makeDirectories; simp only [made'], alike⟩
  | case2 _ _ lost unnamed =>
    have lost' := twins.makeDirectory_of_error lost
    exact ⟨t', by unfold FileTree.makeDirectories; simp only [lost', if_pos unnamed], twins⟩
  | case3 _ lost named =>
    have lost' := twins.makeDirectory_of_error lost
    exact ⟨t', by unfold FileTree.makeDirectories; simp only [lost', if_neg named], twins⟩
  | case4 _ lost named _ _ _ stopped ih =>
    rw [stopped] at ih
    obtain ⟨u', stopped', alike⟩ := ih
    have lost' := twins.makeDirectory_of_error lost
    exact ⟨u', by unfold FileTree.makeDirectories; simp only [lost', if_neg named, stopped'], alike⟩
  | case5 _ lost named _ _ above _ made ih =>
    rw [above] at ih
    obtain ⟨u', above', alike⟩ := ih
    obtain ⟨v', made', alike'⟩ := alike.makeDirectory_of_ok made
    have lost' := twins.makeDirectory_of_error lost
    exact ⟨v', by unfold FileTree.makeDirectories; simp only [lost', if_neg named, above', made'], alike'⟩
  | case6 _ lost named _ _ above lostAgain ih =>
    rw [above] at ih
    obtain ⟨u', above', alike⟩ := ih
    have lost' := twins.makeDirectory_of_error lost
    have lostAgain' := alike.makeDirectory_of_error lostAgain
    exact ⟨u', by unfold FileTree.makeDirectories; simp only [lost', if_neg named, above', lostAgain'], alike⟩
  | case7 _ lost named _ _ above _ other failed ih =>
    rw [above] at ih
    obtain ⟨u', above', alike⟩ := ih
    have lost' := twins.makeDirectory_of_error lost
    have failed' := alike.makeDirectory_of_error failed
    refine ⟨u', ?_, alike⟩
    unfold FileTree.makeDirectories
    simp only [lost', if_neg named, above', failed', alike.settle]
  | case8 _ _ _ other failed =>
    have failed' := twins.makeDirectory_of_error failed
    refine ⟨t', ?_, twins⟩
    unfold FileTree.makeDirectories
    simp only [failed', twins.settle]

theorem openFile_of_error (twins : Twins l x x' t t') {fault : Fault}
    (failed : t.openFile here p = .error fault) : t'.openFile here p = .error fault := by
  have sameFind := twins.find here p .file
  rcases error_of_bind_eq_error failed with failed | ⟨place, found, failed⟩
  · exact bind_of_error (sameFind.trans failed)
  · rw [FileTree.openFile, bind_of_ok (sameFind.trans found)]
    rcases twins.nodeAt_cases place with same | ⟨-, left, -⟩
    · rw [same]
      split at failed
      · cases failed
      · exact failed
      · cases failed
    · rw [left] at failed
      cases failed

theorem openFile_of_ok (twins : Twins l x x' t t') {m : Location} {u : FileTree}
    (opened : t.openFile here p = .ok (m, u)) :
    ∃ u', t'.openFile here p = .ok (m, u') ∧ Twins l x x' u u' := by
  obtain ⟨found, ⟨⟨content, there⟩, rfl⟩ | ⟨absent, rfl⟩⟩ := openFile_eq_ok opened
  · obtain ⟨content', there'⟩ := twins.get?_of_file there
    exact ⟨t', openFile_of_file ((twins.find here p .file).trans found) there', twins⟩
  · refine ⟨_, ?_, twins.set_of_absent absent⟩
    have absent' := twins.get?_of_not_file absent (by simp)
    rw [FileTree.openFile, bind_of_ok ((twins.find here p .file).trans found)]
    simp only [nodeAt, if_true, absent']

/-- Where no write lands on the file, it is written alike. -/
theorem write (twins : Twins l x x' t t') (apart : ∀ u, t.openFile here p ≠ .ok (l, u))
    (content : List UInt8) :
    (∃ fault, t.write here p content = .error fault ∧ t'.write here p content = .error fault) ∨
      ∃ u u', t.write here p content = .ok u ∧ t'.write here p content = .ok u' ∧ Twins l x x' u u' := by
  rw [write_eq, write_eq]
  cases opened : t.openFile here p with
  | error fault =>
    rw [twins.openFile_of_error opened]
    exact .inl ⟨fault, rfl, rfl⟩
  | ok place =>
    obtain ⟨m, u⟩ := place
    obtain ⟨u', opened', alike⟩ := twins.openFile_of_ok opened
    obtain ⟨before, there⟩ := get?_of_openFile opened
    rw [opened']
    refine .inr ⟨_, _, rfl, rfl, alike.set (ne_root_of_get?_eq_file there) ?_⟩
    rintro rfl
    exact apart u opened

end Twins

end Checkin.FileTree

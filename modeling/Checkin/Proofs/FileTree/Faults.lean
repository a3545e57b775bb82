import Checkin.Failure
import Checkin.Proofs.FileTree.Change
import Checkin.Proofs.Path

/-!
# Faults

Which uses of a path end with which faults. Most faults are the system's own and have a number; the others
come of a NUL character in the path, or of too many directories that are missing one above another.
-/

namespace Checkin.FileTree

variable {t t' : FileTree} {purpose : Purpose} {links depth : Nat} {here : Place} {p q : Path}
  {names : List String} {fault : Fault}

/-- The system knows all faults that end walks by a number. -/
theorem number?_isSome_of_walk (walked : t.walk purpose links here names = .error fault) :
    fault.number?.isSome = true := by
  fun_induction walk t purpose links here names with
  | case1 | case8 | case10 | case13 => cases walked
  | case2 _ _ _ _ _ ih | case3 _ _ _ _ ih | case7 _ _ _ _ _ _ _ _ _ _ _ ih
  | case12 _ _ _ _ _ _ _ _ _ _ _ _ _ ih => exact ih walked
  | case4 | case5 | case6 | case9 | case11 | case14 => cases walked; rfl

theorem find_of_nul (nul : p.text.toList.contains '\x00' = true) :
    t.find here p purpose = .error .embeddedNul := by
  simp only [find, nul, if_true]

theorem find_of_long (noNul : p.text.toList.contains '\x00' = false)
    (long : maxPathSize < p.text.utf8ByteSize) : t.find here p purpose = .error .nameTooLong := by
  simp only [find, noNul, if_pos long, Bool.false_eq_true, if_false]

/-- A name that would make no path that can be used leads nowhere, in any tree. -/
theorem exists_fault_of_not_usable {directory : Path} {name : String} (plain : IsPlain name)
    (short : name.utf8ByteSize ≤ maxNameSize) (unusable : ¬UsableIn directory name) :
    ∃ fault, ∀ (t : FileTree) here purpose, t.find here (directory.child name) purpose = .error fault := by
  by_cases nul : (directory.child name).text.toList.contains '\x00' = true
  · exact ⟨.embeddedNul, fun _ _ _ => find_of_nul nul⟩
  · have noNul := Bool.eq_false_iff.2 nul
    have long : maxPathSize < (directory.child name).text.utf8ByteSize :=
      Nat.lt_of_not_le fun fits => unusable ⟨plain, short, fits, noNul⟩
    exact ⟨.nameTooLong, fun _ _ _ => find_of_long noNul long⟩

/-- Only a NUL character ends a search with a fault that is not the system's. -/
theorem number?_isSome_of_find (noNul : p.text.toList.contains '\x00' = false)
    (failed : t.find here p purpose = .error fault) : fault.number?.isSome = true := by
  unfold find at failed
  simp only [noNul, Bool.false_eq_true, if_false] at failed
  split at failed
  · cases failed; rfl
  · exact number?_isSome_of_walk failed

/-- A search that something stood in the way of ends there still. -/
theorem find_eq_error_of_retains (retains : Retains t t') (failed : t.find here p purpose = .error fault)
    (blocked : fault ≠ .notFound) : t'.find here p purpose = .error fault := by
  unfold find at failed ⊢
  split at failed
  · next nul => rwa [if_pos nul]
  · next noNul =>
    rw [if_neg noNul]
    split at failed
    · next long => rwa [if_pos long]
    · next fits =>
      rw [if_neg fits]
      exact walk_eq_error_of_retains retains failed blocked

/-- Looking for what a name stands for fails in one of four ways. -/
theorem walk_target_fault (walked : t.walk .target links here names = .error fault) :
    fault ∈ [.notFound, .notADirectory, .nameTooLong, .tooManyLinks] := by
  generalize target : Purpose.target = purpose at walked
  fun_induction walk t purpose links here names with
  | case1 | case8 | case10 | case13 => cases walked
  | case2 _ _ _ _ _ ih | case3 _ _ _ _ ih | case7 _ _ _ _ _ _ _ _ _ _ _ ih
  | case12 _ _ _ _ _ _ _ _ _ _ _ _ _ ih => exact ih walked
  | case4 _ _ _ _ _ _ slashed => rw [← target] at slashed; cases slashed.1
  | case5 | case6 | case9 | case11 | case14 => cases walked; simp

/-! ## Looking -/

theorem isDirectory_fault (failed : t.isDirectory here p = .error fault) : fault = .nameTooLong := by
  unfold isDirectory at failed
  split at failed
  · cases failed
  · next other _ =>
    split at failed
    · cases failed
    · next present =>
      cases failed
      simpa [meansAbsent] using present

theorem exists?_fault (failed : t.exists? here p = .error fault) : fault = .nameTooLong := by
  unfold exists? at failed
  split at failed
  · cases failed
  · next other _ =>
    split at failed
    · cases failed
    · next present =>
      cases failed
      simpa [meansAbsent] using present

theorem stat_of_exists?_error (failed : t.exists? here p = .error fault) :
    t.stat here p = .error fault := by
  unfold exists? at failed
  split at failed
  · cases failed
  · next other looked =>
    split at failed
    · cases failed
    · cases failed
      exact looked

theorem stat_of_nul (nul : p.text.toList.contains '\x00' = true) :
    t.stat here p = .error .embeddedNul := by
  exact bind_of_error (find_of_nul nul)

theorem stat_of_find (lost : t.find here p .target = .error fault) :
    t.stat here p = .error fault := by
  exact bind_of_error lost

theorem stat_fault (failed : t.stat here p = .error fault) :
    fault ∈ [.notFound, .notADirectory, .nameTooLong, .tooManyLinks, .embeddedNul] := by
  rcases error_of_bind_eq_error failed with failed | ⟨place, -, failed⟩
  · unfold find at failed
    split at failed
    · cases failed; simp
    · split at failed
      · cases failed; simp
      · exact List.mem_append_left [.embeddedNul] (walk_target_fault failed)
  · split at failed
    · cases failed
    · cases failed; simp

theorem exists?_eq_true_iff : t.exists? here p = .ok true ↔ ∃ node, t.stat here p = .ok node := by
  unfold exists?
  cases t.stat here p with
  | ok node => simp
  | error fault => cases fault <;> simp [meansAbsent]

theorem exists?_eq_false_iff :
    t.exists? here p = .ok false ↔ ∃ fault, t.stat here p = .error fault ∧ fault ≠ .nameTooLong := by
  unfold exists?
  cases t.stat here p with
  | ok node => simp
  | error fault => cases fault <;> simp [meansAbsent]

theorem number?_isSome_of_stat (noNul : p.text.toList.contains '\x00' = false)
    (failed : t.stat here p = .error fault) : fault.number?.isSome = true := by
  rcases error_of_bind_eq_error failed with failed | ⟨place, -, failed⟩
  · exact number?_isSome_of_find noNul failed
  · split at failed
    · cases failed
    · cases failed; rfl

theorem read_of_nul (nul : p.text.toList.contains '\x00' = true) :
    t.read here p = .error .embeddedNul := by
  exact bind_of_error (stat_of_nul nul)

theorem number?_isSome_of_read (noNul : p.text.toList.contains '\x00' = false)
    (failed : t.read here p = .error fault) : fault.number?.isSome = true := by
  rcases error_of_bind_eq_error failed with failed | ⟨node, -, failed⟩
  · exact number?_isSome_of_stat noNul failed
  · cases node <;> cases failed <;> rfl

/-- What can be seen has a path without a NUL character. -/
theorem noNul_of_exists? (present : t.exists? here p = .ok true) :
    p.text.toList.contains '\x00' = false := by
  cases nul : p.text.toList.contains '\x00' with
  | false => rfl
  | true => simp [exists?, stat_of_nul nul, meansAbsent] at present

theorem find_of_exists? (present : t.exists? here p = .ok true) :
    ∃ place, t.find here p .target = .ok place := by
  cases found : t.find here p .target with
  | ok place => exact ⟨place, rfl⟩
  | error fault =>
    have looked : t.stat here p = .error fault := bind_of_error found
    rw [exists?, looked] at present
    dsimp only at present
    split at present <;> cases present

theorem isDirectory_of_nul (nul : p.text.toList.contains '\x00' = true) :
    t.isDirectory here p = .ok false := by
  simp [isDirectory, stat_of_nul nul, meansAbsent]

theorem isDirectory_of_long (noNul : p.text.toList.contains '\x00' = false)
    (long : maxPathSize < p.text.utf8ByteSize) : t.isDirectory here p = .error .nameTooLong := by
  simp [isDirectory, stat_of_find (find_of_long noNul long), meansAbsent]

theorem isDirectory_of_notFound (lost : t.find here p .target = .error .notFound) :
    t.isDirectory here p = .ok false := by
  simp [isDirectory, stat_of_find lost, meansAbsent]

/-! ## Changing -/

theorem openFile_of_nul (nul : p.text.toList.contains '\x00' = true) :
    t.openFile here p = .error .embeddedNul := by
  exact bind_of_error (find_of_nul nul)

theorem number?_isSome_of_openFile (noNul : p.text.toList.contains '\x00' = false)
    (failed : t.openFile here p = .error fault) : fault.number?.isSome = true := by
  rcases error_of_bind_eq_error failed with failed | ⟨place, -, failed⟩
  · exact number?_isSome_of_find noNul failed
  · split at failed
    · cases failed
    · cases failed; rfl
    · cases failed

theorem makeDirectory_of_nul (nul : p.text.toList.contains '\x00' = true) :
    t.makeDirectory here p = .error .embeddedNul := by
  exact bind_of_error (find_of_nul nul)

theorem number?_isSome_of_makeDirectory (noNul : p.text.toList.contains '\x00' = false)
    (failed : t.makeDirectory here p = .error fault) : fault.number?.isSome = true := by
  rcases error_of_bind_eq_error failed with failed | ⟨place, -, failed⟩
  · exact number?_isSome_of_find noNul failed
  · split at failed
    · cases failed; rfl
    · cases failed

theorem find_of_makeDirectory_notFound (failed : t.makeDirectory here p = .error .notFound) :
    t.find here p .entry = .error .notFound := by
  rcases error_of_bind_eq_error failed with failed | ⟨place, -, failed⟩
  · exact failed
  · split at failed <;> cases failed

/-- A directory whose path has a NUL character cannot be made, nor is any other then. -/
theorem makeDirectories_of_nul (nul : p.text.toList.contains '\x00' = true) :
    t.makeDirectories here depth p = (.error (.embeddedNul, p), t) := by
  unfold makeDirectories
  simp [makeDirectory_of_nul nul, settle, isDirectory_of_nul nul]

theorem noNul_of_makeDirectories (made : t.makeDirectories here depth p = (.ok (), t')) :
    p.text.toList.contains '\x00' = false := by
  cases nul : p.text.toList.contains '\x00' with
  | false => rfl
  | true => simp [makeDirectories_of_nul nul] at made

theorem settle_fault {other : Fault} (failed : t.settle here p fault = .error (other, q)) :
    other = fault ∨ other = .nameTooLong := by
  unfold settle at failed
  split at failed
  · cases failed
  · cases failed; exact .inl rfl
  · next looked => cases failed; exact .inr (isDirectory_fault looked)

/-- Where a path leads to something below a directory, making that directory meets with no more than
faults of the system. -/
theorem number?_isSome_of_makeDirectories {name : String} (plain : '\x00' ∉ name.toList)
    (present : t.exists? here (p.child name) = .ok true)
    (failed : t.makeDirectories here depth p = (.error (fault, q), t')) : fault.number?.isSome = true := by
  have noNul : p.text.toList.contains '\x00' = false := by
    rw [← Path.contains_nul_child plain]
    exact noNul_of_exists? present
  have reached : t.find here p .entry ≠ .error .notFound := by
    obtain ⟨place, found⟩ := find_of_exists? present
    obtain ⟨-, -, walked⟩ := find_eq_ok found
    obtain ⟨place', walked'⟩ := walk_entry_of_walk_target walked
    intro lost
    unfold find at lost
    simp only [noNul, Bool.false_eq_true, if_false] at lost
    split at lost
    · cases lost
    · rw [show p.isAbsolute = (p.child name).isAbsolute from rfl, walked'] at lost
      cases lost
  unfold makeDirectories at failed
  split at failed
  · cases failed
  · next lost => exact absurd (find_of_makeDirectory_notFound lost) reached
  · next other _ stopped =>
    injection failed with settled
    rcases settle_fault settled with rfl | rfl
    · exact number?_isSome_of_makeDirectory noNul stopped
    · rfl

end Checkin.FileTree

import Checkin.Proofs.FileTree.Faults

/-!
# Directories missing one above another

A directory is made after those above it, of which no more than so many may be missing. If more of them are
(`OrphanedThrough`), nothing is made at all, and that is the only way in which too many can be the fault.
-/

namespace Checkin.FileTree

variable {t t' : FileTree} {here : Place} {depth : Nat} {p q : Path} {fault : Fault}

/-- The directory that a path would be in is not there. -/
def Orphaned (t : FileTree) (here : Place) (p : Path) : Prop :=
  p.names ≠ [] ∧ t.find here p .entry = .error .notFound

/-- Neither for a path nor for the `depth` paths above it is there a directory to be in. -/
def OrphanedThrough (t : FileTree) (here : Place) : Nat → Path → Prop
  | 0, p => Orphaned t here p
  | depth + 1, p => Orphaned t here p ∧ OrphanedThrough t here depth p.parent

theorem OrphanedThrough.orphaned (through : OrphanedThrough t here depth p) : Orphaned t here p := by
  cases depth with
  | zero => exact through
  | succ depth => exact through.1

theorem Orphaned.makeDirectory (orphaned : Orphaned t here p) :
    t.makeDirectory here p = .error .notFound :=
  bind_of_error orphaned.2

/-- What may be wrong with a directory itself is not that too many are missing; unless its path has a NUL
character, it is a fault of the system. -/
def IsOwnFault (p : Path) (fault : Fault) : Prop :=
  fault ≠ .directoriesTooDeep ∧ (p.text.toList.contains '\x00' = false → fault.number?.isSome = true)

theorem isOwnFault_of_settle {cause : Fault} (failed : t.makeDirectory here p = .error cause)
    (settled : t'.settle here p cause = .error (fault, q)) : IsOwnFault p fault := by
  rcases settle_fault settled with rfl | rfl
  · refine ⟨?_, fun noNul => number?_isSome_of_makeDirectory noNul failed⟩
    rintro rfl
    cases nul : p.text.toList.contains '\x00' with
    | true =>
      rw [makeDirectory_of_nul nul] at failed
      cases failed
    | false => cases number?_isSome_of_makeDirectory nul failed
  · exact ⟨by decide, fun _ => rfl⟩

theorem isOwnFault_notFound (p : Path) : IsOwnFault p .notFound :=
  ⟨by decide, fun _ => rfl⟩

theorem OrphanedThrough.makeDirectories (through : OrphanedThrough t here depth p) :
    ∃ q, t.makeDirectories here depth p = (.error (.directoriesTooDeep, q), t) := by
  induction depth generalizing p with
  | zero =>
    unfold FileTree.makeDirectories
    simp only [Orphaned.makeDirectory through, if_neg through.1]
    exact ⟨p, rfl⟩
  | succ depth ih =>
    obtain ⟨orphaned, through⟩ := through
    obtain ⟨q, stopped⟩ := ih through
    unfold FileTree.makeDirectories
    simp only [orphaned.makeDirectory, if_neg orphaned.1, stopped]
    exact ⟨q, rfl⟩

/-- How the making of a directory fails: at the directory itself, or because too many are missing, or at one
of those above it. -/
theorem makeDirectories_error (stopped : t.makeDirectories here depth p = (.error (fault, q), t')) :
    IsOwnFault p fault ∨
    depth = 0 ∧ Orphaned t here p ∧ fault = .directoriesTooDeep ∨
    ∃ above, depth = above + 1 ∧ Orphaned t here p ∧
      t.makeDirectories here above p.parent = (.error (fault, q), t') := by
  unfold makeDirectories at stopped
  split at stopped
  · cases stopped
  · next lost =>
    split at stopped
    · cases stopped
      exact .inl (isOwnFault_notFound p)
    · next named =>
      have orphaned : Orphaned t here p := ⟨named, find_of_makeDirectory_notFound lost⟩
      cases depth with
      | zero =>
        cases stopped
        exact .inr (.inl ⟨rfl, orphaned, rfl⟩)
      | succ above =>
        dsimp only at stopped
        split at stopped
        · next failed =>
          cases stopped
          exact .inr (.inr ⟨above, rfl, orphaned, failed⟩)
        · split at stopped
          · cases stopped
          · cases stopped
            exact .inl (isOwnFault_notFound p)
          · next failed =>
            injection stopped with settled
            exact .inl (isOwnFault_of_settle failed settled)
  · next failed =>
    injection stopped with settled
    exact .inl (isOwnFault_of_settle failed settled)

/-- Too many missing directories are found only where there are so many. -/
theorem orphanedThrough_of_makeDirectories
    (stopped : t.makeDirectories here depth p = (.error (.directoriesTooDeep, q), t')) :
    OrphanedThrough t here depth p := by
  induction depth generalizing p with
  | zero =>
    rcases makeDirectories_error stopped with ⟨other, -⟩ | ⟨-, orphaned, -⟩ | ⟨above, none, -, -⟩
    · exact absurd rfl other
    · exact orphaned
    · cases none
  | succ depth ih =>
    rcases makeDirectories_error stopped with ⟨other, -⟩ | ⟨none, -, -⟩ | ⟨above, same, orphaned, stopped⟩
    · exact absurd rfl other
    · cases none
    · cases same
      exact ⟨orphaned, ih stopped⟩

theorem noNul_parent (noNul : p.text.toList.contains '\x00' = false) :
    p.parent.text.toList.contains '\x00' = false := by
  rw [Bool.eq_false_iff, ne_eq, Path.contains_nul_iff] at noNul ⊢
  rintro ⟨name, member, inside⟩
  exact noNul ⟨name, List.dropLast_subset _ member, inside⟩

/-- At a path without a NUL character, what else is in the way of a directory is a fault of the system. -/
theorem makeDirectories_fault (noNul : p.text.toList.contains '\x00' = false)
    (stopped : t.makeDirectories here depth p = (.error (fault, q), t')) :
    fault.number?.isSome = true ∨ fault = .directoriesTooDeep := by
  induction depth generalizing p with
  | zero =>
    rcases makeDirectories_error stopped with ⟨-, numbered⟩ | ⟨-, -, tooDeep⟩ | ⟨above, none, -, -⟩
    · exact .inl (numbered noNul)
    · exact .inr tooDeep
    · cases none
  | succ depth ih =>
    rcases makeDirectories_error stopped with ⟨-, numbered⟩ | ⟨none, -, -⟩ | ⟨above, same, -, stopped⟩
    · exact .inl (numbered noNul)
    · cases none
    · cases same
      exact ih (noNul_parent noNul) stopped

/-- A path that leads to something has a directory to be in, and so has that directory. -/
theorem Orphaned.not_exists (orphaned : Orphaned t here p.parent) : t.exists? here p ≠ .ok true := by
  intro present
  obtain ⟨place, found⟩ := find_of_exists? present
  obtain ⟨noNul, fits, walked⟩ := find_eq_ok found
  have named : p.names ≠ [] := fun none => orphaned.1 (by simp [Path.parent, none])
  rw [← List.dropLast_concat_getLast named] at walked
  obtain ⟨place', reached⟩ := walk_entry_of_walk_target walked
  have lost := orphaned.2
  unfold find at lost
  split at lost
  · cases lost
  · split at lost
    · cases lost
    · rw [show p.parent.isAbsolute = p.isAbsolute from rfl, show p.parent.names = p.names.dropLast from rfl,
        reached] at lost
      cases lost

/-! ## A path that goes too deep -/

/-- The path of a directory in an empty tree, with so many others above it. -/
def deepPath (depth : Nat) : Path :=
  ⟨.relative, List.replicate depth "a"⟩

theorem deepPath_parent (depth : Nat) : (deepPath (depth + 1)).parent = deepPath depth := by
  simp [deepPath, Path.parent, List.dropLast_replicate]

theorem utf8ByteSize_deepPath (depth : Nat) : (deepPath (depth + 1)).text.utf8ByteSize = 2 * depth + 1 :=
  Path.utf8ByteSize_intercalate_replicate depth

/-- In an empty tree the path leads nowhere, unless it is too long to be a path at all. -/
theorem find_deepPath {depth : Nat} (short : 2 * depth + 3 ≤ maxPathSize) (purpose : Purpose) :
    FileTree.empty.find .root (deepPath (depth + 2)) purpose = .error .notFound := by
  have noNul : (deepPath (depth + 2)).text.toList.contains '\x00' = false := by
    rw [Bool.eq_false_iff]
    intro nul
    obtain ⟨name, member, inside⟩ := (Path.contains_nul_iff _).1 nul
    rw [List.eq_of_mem_replicate member] at inside
    exact absurd inside (by decide)
  have size : (deepPath (depth + 2)).text.utf8ByteSize = 2 * (depth + 1) + 1 :=
    utf8ByteSize_deepPath (depth + 1)
  rw [find_eq_walk noNul (by omega), ite_self]
  show walk _ _ _ _ ("a" :: "a" :: List.replicate depth "a") = _
  rw [walk_plain (by decide) (by decide) (by simp) (by decide) (by decide)]
  rfl

theorem orphaned_deepPath {depth : Nat} (short : 2 * depth + 3 ≤ maxPathSize) :
    Orphaned .empty .root (deepPath (depth + 2)) :=
  ⟨by simp [deepPath], find_deepPath short .entry⟩

theorem orphanedThrough_deepPath (depth : Nat) (short : 2 * depth + 3 ≤ maxPathSize) :
    OrphanedThrough .empty .root depth (deepPath (depth + 2)) := by
  induction depth with
  | zero => exact orphaned_deepPath short
  | succ depth ih =>
    refine ⟨orphaned_deepPath short, ?_⟩
    rw [deepPath_parent]
    exact ih (by omega)

end Checkin.FileTree

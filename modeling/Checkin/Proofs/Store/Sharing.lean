import Checkin.Proofs.Store.Uses

/-!
# State files that share a directory

In trees in which the state files are entries of one directory (`Housed`), what comes of looking at one of
them, and of writing it, depends on its own entry and on nothing else. Whether its name makes a path that can
be used is the same in all trees.
-/

namespace Checkin.Store

open Checkin.Text FileTree

variable {t t' : FileTree} {here place : Place} {depth : Nat} {cfg : Config} {name value : String}
  {octets : List UInt8}

/-! ## Looking -/

/-- A state file is found nowhere, for a reason that no tree has to do with, or its name can be used. -/
theorem usableIn_or_fault (cfg : Config) (among : name ∈ stateFileNames) :
    UsableIn cfg.stateDir name ∨ ∃ fault, ∀ (t : FileTree) here purpose,
      t.find here (cfg.stateDir.child name) purpose = .error fault := by
  obtain ⟨plain, short⟩ := isPlain_of_mem_stateFileNames name among
  by_cases usable : UsableIn cfg.stateDir name
  · exact .inl usable
  · exact .inr (exists_fault_of_not_usable plain short usable)

theorem Housed.find_eq (housed : Housed t here cfg place) (among : name ∈ stateFileNames)
    (usable : UsableIn cfg.stateDir name) (purpose : Purpose) :
    t.find here (cfg.stateDir.child name) purpose = .ok (place.child name) := by
  have noLink := (linkTarget?_eq_none_iff housed.houses among).1 (housed.plain name among) usable
  exact housed.houses.plain (Retains.refl t) usable noLink purpose

section Congruence

variable (housed : Housed t here cfg place) (housed' : Housed t' here cfg place)
  (among : name ∈ stateFileNames)
  (same : t'.get? (place.child name).location = t.get? (place.child name).location)
include housed housed' among same

theorem Housed.stat_congr :
    t'.stat here (cfg.stateDir.child name) = t.stat here (cfg.stateDir.child name) := by
  rcases usableIn_or_fault cfg among with usable | ⟨fault, nowhere⟩
  · rw [stat, stat, bind_of_ok (housed'.find_eq among usable .target),
      bind_of_ok (housed.find_eq among usable .target), nodeAt_child, nodeAt_child, same]
  · rw [stat_of_find (nowhere t' here .target), stat_of_find (nowhere t here .target)]

theorem Housed.exists?_congr :
    t'.exists? here (cfg.stateDir.child name) = t.exists? here (cfg.stateDir.child name) := by
  rw [exists?, exists?, housed.stat_congr housed' among same]

theorem Housed.readText_congr :
    readText t' here (cfg.stateDir.child name) = readText t here (cfg.stateDir.child name) := by
  rw [readText, readText, FileTree.read, FileTree.read, housed.stat_congr housed' among same]

/-! ## Writing -/

theorem Housed.openFile_congr :
    (∃ fault, t.openFile here (cfg.stateDir.child name) = .error fault ∧
        t'.openFile here (cfg.stateDir.child name) = .error fault) ∨
      ∃ opened opened', t.openFile here (cfg.stateDir.child name) = .ok opened ∧
        t'.openFile here (cfg.stateDir.child name) = .ok opened' := by
  rcases usableIn_or_fault cfg among with usable | ⟨fault, nowhere⟩
  · rw [openFile, openFile, bind_of_ok (housed'.find_eq among usable .file),
      bind_of_ok (housed.find_eq among usable .file), nodeAt_child, nodeAt_child, same]
    cases t.get? (place.child name).location with
    | none => exact .inr ⟨_, _, rfl, rfl⟩
    | some node =>
      cases node with
      | file content => exact .inr ⟨_, _, rfl, rfl⟩
      | directory | link => exact .inl ⟨_, rfl, rfl⟩
  · refine .inl ⟨fault, ?_, ?_⟩
    · rw [openFile, nowhere]
      rfl
    · rw [openFile, nowhere]
      rfl

/-- A state file is written in both of two trees that have the same at its entry, or in none of them. -/
theorem Housed.written_congr (value : String) :
    (∃ failure, written t here depth (cfg.stateDir.child name) value = (.error failure, t) ∧
        written t' here depth (cfg.stateDir.child name) value = (.error failure, t')) ∨
      ∃ u u', written t here depth (cfg.stateDir.child name) value = (.ok (), u) ∧
        written t' here depth (cfg.stateDir.child name) value = (.ok (), u') ∧
        Writes t here depth (cfg.stateDir.child name) value u ∧
        Writes t' here depth (cfg.stateDir.child name) value u' := by
  have makes : ∀ {t}, Housed t here cfg place →
      t.makeDirectories here depth (cfg.stateDir.child name).parent = (.ok (), t) := by
    intro t housed
    rw [Path.parent_child]
    exact makeDirectories_of_isDirectory housed.there
  rcases housed.openFile_congr housed' among same with ⟨fault, refused, refused'⟩ |
    ⟨opened, opened', opens, opens'⟩
  · exact .inl ⟨_, written_of_refused (makes housed) refused value,
      written_of_refused (makes housed') refused' value⟩
  · exact .inr ⟨_, _, written_of_opened (makes housed) opens value,
      written_of_opened (makes housed') opens' value, ⟨t, _, _, makes housed, opens, rfl⟩,
      ⟨t', _, _, makes housed', opens', rfl⟩⟩

end Congruence

/-! ## Making the directory -/

/-- A value is written as it would be if the directories above it had been made before. -/
theorem written_of_made {p : Path} {made : FileTree}
    (makes : t.makeDirectories here depth p.parent = (.ok (), made)) (value : String) :
    written made here depth p value = written t here depth p value := by
  have again : made.makeDirectories here depth p.parent = (.ok (), made) :=
    makeDirectories_of_isDirectory (isDirectory_of_makeDirectories makes)
  simp only [written, makes, again]

/-- Making the directory of the state files brings nothing to light in their places: no id file where none
was to be seen, and no link. -/
structure Clear (t : FileTree) (here : Place) (depth : Nat) (cfg : Config) : Prop where
  idFile : ∀ {made}, t.makeDirectories here depth cfg.stateDir = (.ok (), made) →
    t.exists? here cfg.idFile = .ok false → made.exists? here cfg.idFile = .ok false
  link : ∀ {made}, t.makeDirectories here depth cfg.stateDir = (.ok (), made) → ∀ name ∈ stateFileNames,
    made.linkTarget? here (cfg.stateDir.child name) = t.linkTarget? here (cfg.stateDir.child name)

/-- Nothing is brought to light where the directory is there already. -/
theorem Clear.of_isDirectory (there : t.isDirectory here cfg.stateDir = .ok true) : Clear t here depth cfg := by
  refine ⟨fun makes hidden => ?_, (Prompt.of_isDirectory there).link⟩
  rw [makeDirectories_of_isDirectory there] at makes
  cases makes
  exact hidden

/-- In a directory that is there, a name that leads to nothing names nothing. -/
theorem exists?_of_names_nothing (there : t.isDirectory here cfg.stateDir = .ok true)
    (usable : UsableIn cfg.stateDir name)
    (nothing : ∀ purpose place, t.find here (cfg.stateDir.child name) purpose = .ok place →
      t.nodeAt place = none) : t.exists? here (cfg.stateDir.child name) = .ok false := by
  rcases houses_or_removed there with ⟨place, houses⟩ | removed
  · have absent := nothing .entry _ (houses.entry (Retains.refl t) usable)
    have found := houses.plain (Retains.refl t) usable
      (fun target linked => by rw [nodeAt_child, linked] at absent; cases absent) .target
    rw [exists?, stat, bind_of_ok found, absent]
    rfl
  · rw [exists?, stat_of_find (removed t name (Retains.refl t) usable .target)]
    rfl

/-- Nothing is brought to light by a path without double dots, in a tree in which nothing is below what is
missing. -/
theorem Clear.of_isPlain (rooted : Rooted t) (plain : ∀ name ∈ cfg.stateDir.names, IsPlain name) :
    Clear t here depth cfg := by
  refine ⟨fun makes hidden => ?_, (Prompt.of_isPlain rooted plain).link⟩
  rcases exists_fresh_of_makeDirectories rooted plain makes with ⟨-, rfl⟩ | ⟨place, fresh⟩
  · exact hidden
  · rcases usableIn_or_fault cfg idName_mem with usable | ⟨fault, nowhere⟩
    · refine exists?_of_names_nothing (isDirectory_of_makeDirectories makes) usable fun purpose => ?_
      exact (fresh.names_nothing (isPlain_of_mem_stateFileNames _ idName_mem).1 purpose).2
    · rw [exists?, Config.idFile, stat_of_find (nowhere _ here .target)] at hidden
      rwa [exists?, Config.idFile, stat_of_find (nowhere _ here .target)]

end Checkin.Store

import Checkin.Proofs.EnvironmentFile
import Checkin.Proofs.Tool.Likeness
import Mathlib.Data.List.Find

/-!
# Runs in other working directories

Looking at an absolute path gives the same in every working directory. What the tool does before it reads its
arguments looks at no other paths if the path of its program is absolute, and what `env` does looks at no other
paths if the root is known: in two working directories they go the same way (`Moved`).
-/

namespace Checkin

open Checkin.Action

/-! ## Absolute paths -/

namespace FileTree

variable {t : FileTree} {p : Path}

theorem find_of_absolute (absolute : p.isAbsolute = true) (here here' : Place) (purpose : Purpose) :
    t.find here' p purpose = t.find here p purpose := by
  unfold find
  rw [if_pos absolute, if_pos absolute]

theorem stat_of_absolute (absolute : p.isAbsolute = true) (here here' : Place) :
    t.stat here' p = t.stat here p := by
  simp only [stat, find_of_absolute absolute here here']

theorem read_of_absolute (absolute : p.isAbsolute = true) (here here' : Place) :
    t.read here' p = t.read here p := by
  simp only [read, stat_of_absolute absolute here here']

theorem isDirectory_of_absolute (absolute : p.isAbsolute = true) (here here' : Place) :
    t.isDirectory here' p = t.isDirectory here p := by
  simp only [isDirectory, stat_of_absolute absolute here here']

end FileTree

theorem ShellEnvironment.distributionIn_of_absolute {t : FileTree} {lib : Path}
    (absolute : lib.isAbsolute = true) (here here' : Place) (stem : String) :
    distributionIn t here' lib stem = distributionIn t here lib stem := by
  have inside (name : String) : t.isDirectory here' (lib.child name) = t.isDirectory here (lib.child name) :=
    FileTree.isDirectory_of_absolute (p := lib.child name) absolute here here'
  simp only [distributionIn, FileTree.isDirectory_of_absolute absolute here here',
    FileTree.find_of_absolute absolute here here', inside]

theorem EnvironmentFile.locate?_elsewhere (files : FileTree) (here here' : Place) (directory : Location) :
    locate? files here' directory = locate? files here directory := by
  rw [locate?_eq_find?, locate?_eq_find?]
  refine List.find?_congr fun p candidate => ?_
  obtain ⟨depth, -, rfl⟩ := List.mem_map.1 candidate
  simp only [namesFile, FileTree.stat_of_absolute (show Path.isAbsolute ⟨.absolute, _⟩ = true from rfl) here here']

theorem EnvironmentFile.isAbsolute_of_locate? {files : FileTree} {here : Place} {directory : Location}
    {p : Path} (located : locate? files here directory = some p) : p.isAbsolute = true := by
  rw [locate?_eq_find?] at located
  obtain ⟨depth, -, rfl⟩ := List.mem_map.1 (List.mem_of_find?_eq_some located)
  rfl

/-! ## Moved sessions -/

/-- A session in another working directory. -/
def Session.movedTo (s : Session) (here : Place) : Session :=
  { s with world := { s.world with workingDirectory := here } }

theorem Session.write_movedTo (s : Session) (here : Place) (r : Record) :
    (s.movedTo here).write r = (s.write r).movedTo here := by
  obtain ⟨world, sink, journal, output, errors⟩ := s
  cases sink <;> rfl

/-- The second session is the first one in another working directory. -/
def Moved (here : Place) (s s' : Session) : Prop :=
  s' = s.movedTo here

variable {here : Place} {α : Type}

theorem moved_world_bind {f : World → Action α}
    (next : ∀ world, Agrees (Moved here) (f world) (f { world with workingDirectory := here })) :
    Agrees (Moved here) (world >>= f) (world >>= f) := by
  apply agrees_world_bind
  rintro s _ rfl
  exact next s.world

theorem moved_modify {f : Session → Session} (commutes : ∀ s, f (s.movedTo here) = (f s).movedTo here) :
    Agrees (Moved here) (modify f) (modify f) := by
  apply agrees_modify
  rintro s _ rfl
  exact commutes s

theorem moved_log (level : Level) (logger message : String) :
    Agrees (Moved here) (Action.log level logger message) (Action.log level logger message) := by
  refine agrees_logComposed ?_ ?_ ?_ logger (.ok message)
  · rintro s _ rfl
    rfl
  · rintro s _ rfl
    rfl
  · rintro s _ r rfl
    exact s.write_movedTo here r

namespace Tool

open CommandLine FileTree ShellEnvironment

/-! ## Before the command -/

theorem moved_openProgram {program : Path} (absolute : program.isAbsolute = true) :
    Agrees (Moved here) (openProgram program) (openProgram program) := by
  apply moved_world_bind
  intro world
  dsimp only
  rw [read_of_absolute (p := program.normal) absolute world.workingDirectory here]
  exact Agrees.bind (Carries.discard (agrees_onPath _ _)) fun _ => agrees_pure _

theorem moved_loadEnvironmentFile (directory : Location) :
    Agrees (Moved here) (loadEnvironmentFile directory) (loadEnvironmentFile directory) := by
  apply moved_world_bind
  intro world
  dsimp only
  split
  · exact agrees_pure _
  · rw [EnvironmentFile.locate?_elsewhere _ world.workingDirectory here]
    split
    · exact agrees_pure _
    · next p located =>
      have text : Store.readText world.files here p =
          Store.readText world.files world.workingDirectory p := by
        simp only [Store.readText,
          read_of_absolute (EnvironmentFile.isAbsolute_of_locate? located) world.workingDirectory here]
      rw [text]
      apply (agrees_ofExcept _).bind
      intro text
      apply (Agrees.forM (fun _ => moved_log _ _ _) _).bind
      intro warned
      apply (agrees_ofExcept _).bind
      intro environment
      exact moved_modify fun _ => rfl

/-- Loading an environment file depends on the working directory only as far as the program's path does. -/
theorem moved_prepare {program : Option Path} (absolute : ∀ p, program = some p → p.isAbsolute = true) :
    Agrees (Moved here) (prepare program) (prepare program) := by
  cases program with
  | none => exact agrees_pure _
  | some p => exact (moved_openProgram (absolute p rfl)).bind moved_loadEnvironmentFile

/-! ## The command -/

theorem moved_findDistribution {lib : Path} (absolute : lib.isAbsolute = true) (stem : String) :
    Agrees (Moved here) (findDistribution lib stem) (findDistribution lib stem) := by
  rintro s _ rfl
  rw [exec_findDistribution, exec_findDistribution]
  exact ⟨(distributionIn_of_absolute absolute _ _ stem).symm, rfl⟩

theorem moved_exportRoot {home : Path} (absolute : home.isAbsolute = true) :
    Agrees (Moved here) (exportRoot home) (exportRoot home) := by
  apply moved_world_bind
  intro world
  dsimp only
  apply (agrees_compute moved_log (moved_findDistribution absolute) _).bind
  intro exports
  exact (moved_log _ _ _).bind fun _ => moved_modify fun _ => rfl

end Tool

end Checkin

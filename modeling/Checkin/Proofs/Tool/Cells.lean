import Checkin.Proofs.Locality
import Checkin.Proofs.Store.Sharing
import Checkin.Proofs.Tool.Likeness

/-!
# What the usage tools use

Once the directory of the state files is there, asking for an id uses its file and the random draws, and
recording a use uses the file of the time of last use. So they do not get in each other's way.
-/

namespace Checkin.Tool

open Checkin.Action Store FileTree

/-- A session differs from another one at most in its files, in its draws and in what was said. The state
files are entries of a directory there, and the log goes to no file. -/
structure Amid (start : Session) (cfg : Config) (place : Place) (s : Session) : Prop where
  world : s.world = { start.world with files := s.world.files, draws := s.world.draws }
  sink : s.sink = start.sink
  aloud : ∀ threshold l, s.sink ≠ .file threshold l
  housed : Housed s.world.files start.world.workingDirectory cfg place

/-- What the usage tools may change: an entry of the file tree, or the random draws to come. -/
inductive Cell
  | entry (l : Location)
  | draws

/-- What a session has in a cell. -/
def Cell.content (s : Session) : Cell → Option Node ⊕ List Draw
  | .entry l => .inl (s.world.files.get? l)
  | .draws => .inr s.world.draws

variable {start s s' : Session} {cfg : Config} {place : Place} {others : Set Cell}
  {given : Cell → Option Node ⊕ List Draw} {name : String} {t t' : FileTree}

/-- Two sessions are the same but for some cells, and for what was said. -/
abbrev AlikeBut (start : Session) (cfg : Config) (place : Place) (others : Set Cell)
    (given : Cell → Option Node ⊕ List Draw) : Session → Session → Prop :=
  Differ (Amid start cfg place) Cell.content others given

/-! ## Sessions that are alike -/

theorem Amid.workingDirectory (amid : Amid start cfg place s) :
    s.world.workingDirectory = start.world.workingDirectory := by
  rw [amid.world]

theorem Amid.depth (amid : Amid start cfg place s) : s.world.depth = start.world.depth := by
  rw [amid.world]

theorem Amid.write (amid : Amid start cfg place s) (r : Record) : Amid start cfg place (s.write r) := by
  have same := Session.write_world_of_no_file amid.aloud r
  refine ⟨?_, ?_, ?_, ?_⟩
  · rw [same]
    exact amid.world
  · rw [Session.write_sink, amid.sink]
  · rw [Session.write_sink]
    exact amid.aloud
  · rw [same]
    exact amid.housed

theorem Amid.drawn (amid : Amid start cfg place s) : Amid start cfg place s.drawn := by
  refine ⟨?_, amid.sink, amid.aloud, amid.housed⟩
  rw [Session.drawn, amid.world]

theorem Amid.withFiles (amid : Amid start cfg place s)
    (housed : Housed t start.world.workingDirectory cfg place) : Amid start cfg place (s.withFiles t) := by
  refine ⟨?_, amid.sink, amid.aloud, housed⟩
  rw [Session.withFiles, amid.world]

theorem Amid.content_write (amid : Amid start cfg place s) (r : Record) :
    Cell.content (s.write r) = Cell.content s := by
  funext c
  cases c <;> simp only [Cell.content, Session.write_world_of_no_file amid.aloud r]

theorem agrees_draw_of_alikeBut (used : Cell.draws ∉ others) :
    Agrees (AlikeBut start cfg place others given) draw draw := by
  intro s s' alike
  have same : s'.world.draws = s.world.draws := Sum.inr.inj (alike.outside .draws used)
  rw [exec_draw, exec_draw]
  refine ⟨by rw [Session.nextDraw, Session.nextDraw, same], alike.left.drawn, alike.right.drawn, ?_, ?_⟩
  · intro c outside
    cases c with
    | entry l => exact alike.outside (.entry l) outside
    | draws => exact congrArg (fun draws => Sum.inr draws.tail) same
  · intro c inside
    cases c with
    | entry l => exact alike.inside (.entry l) inside
    | draws => exact absurd inside used

theorem agrees_logComposed_of_alikeBut (level : Level) (logger : String) (message : Except Failure String) :
    Agrees (AlikeBut start cfg place others given) (logComposed level logger message)
      (logComposed level logger message) := by
  refine agrees_logComposed ?_ ?_ ?_ logger message
  · intro s s' alike
    rw [alike.left.sink, alike.right.sink]
  · intro s s' alike
    rw [alike.left.world, alike.right.world]
  · intro s s' r alike
    refine ⟨alike.left.write r, alike.right.write r, ?_, ?_⟩
    · rw [alike.left.content_write, alike.right.content_write]
      exact alike.outside
    · rw [alike.right.content_write]
      exact alike.inside

/-! ## State files -/

/-- The cell of a state file. -/
def Cell.stateFile (place : Place) (name : String) : Cell :=
  .entry (place.child name).location

theorem AlikeBut.get?_eq (used : Cell.stateFile place name ∉ others)
    (alike : AlikeBut start cfg place others given s s') :
    s'.world.files.get? (place.child name).location = s.world.files.get? (place.child name).location :=
  Sum.inl.inj (alike.outside _ used)

section StateFile

variable (among : name ∈ stateFileNames) (used : Cell.stateFile place name ∉ others)
include among used

theorem agrees_existingId?_of_alikeBut :
    Agrees (AlikeBut start cfg place others given) (existingId? (cfg.stateDir.child name))
      (existingId? (cfg.stateDir.child name)) := by
  refine agrees_existingId? (fun level logger message => agrees_logComposed_of_alikeBut level logger _) ?_ ?_
  · intro s s' alike
    rw [alike.left.workingDirectory, alike.right.workingDirectory]
    exact (alike.left.housed.exists?_congr alike.right.housed among (AlikeBut.get?_eq used alike)).symm
  · intro s s' alike _
    rw [alike.left.workingDirectory, alike.right.workingDirectory]
    exact (alike.left.housed.readText_congr alike.right.housed among (AlikeBut.get?_eq used alike)).symm

theorem agrees_writeValue_of_alikeBut (value : String) :
    Agrees (AlikeBut start cfg place others given) (writeValue (cfg.stateDir.child name) value)
      (writeValue (cfg.stateDir.child name) value) := by
  intro s s' alike
  have housed := alike.left.housed
  have housed' := alike.right.housed
  rw [exec_writeValue, exec_writeValue, alike.left.workingDirectory, alike.right.workingDirectory,
    alike.left.depth, alike.right.depth]
  rcases housed.written_congr housed' among (AlikeBut.get?_eq used alike) value with
    ⟨failure, failed, failed'⟩ | ⟨t, t', wrote, wrote', writes, writes'⟩
  · rw [failed, failed']
    exact ⟨rfl, alike⟩
  · rw [wrote, wrote']
    obtain ⟨-, -, entries⟩ := housed.get?_of_writes among writes
    obtain ⟨-, -, entries'⟩ := housed'.get?_of_writes among writes'
    refine ⟨rfl, alike.left.withFiles (housed.write among writes).1,
      alike.right.withFiles (housed'.write among writes').1, ?_, ?_⟩
    · intro c outside
      cases c with
      | entry l =>
        have before := Sum.inl.inj (alike.outside (.entry l) outside)
        show Sum.inl (t'.get? l) = Sum.inl (t.get? l)
        rw [entries, entries', before]
      | draws => exact alike.outside .draws outside
    · intro c inside
      cases c with
      | entry l =>
        have other : l ≠ (place.child name).location := by
          rintro rfl
          exact used inside
        show Sum.inl (t'.get? l) = _
        rw [entries', if_neg other]
        exact alike.inside (.entry l) inside
      | draws => exact alike.inside .draws inside

theorem agrees_writeIdIfAbsent_of_alikeBut (undrawn : Cell.draws ∉ others) :
    Agrees (AlikeBut start cfg place others given) (writeIdIfAbsent (cfg.stateDir.child name))
      (writeIdIfAbsent (cfg.stateDir.child name)) :=
  carries_writeIdIfAbsent (agrees_existingId?_of_alikeBut among used) (agrees_draw_of_alikeBut undrawn)
    (agrees_writeValue_of_alikeBut among used) fun _ _ => id

theorem agrees_writeLastUsed_of_alikeBut (millis : Value) :
    Agrees (AlikeBut start cfg place others given) (writeLastUsed (cfg.stateDir.child name) millis)
      (writeLastUsed (cfg.stateDir.child name) millis) := by
  intro s s' alike
  have clock : s'.world.now = s.world.now := by
    rw [alike.left.world, alike.right.world]
  rw [exec_writeLastUsed, exec_writeLastUsed, clock]
  cases givenTime s.world.now millis with
  | error failure => exact ⟨rfl, alike⟩
  | ok value =>
    have writes : Agrees (AlikeBut start cfg place others given) (writeTime (cfg.stateDir.child name) value)
        (writeTime (cfg.stateDir.child name) value) := by
      unfold writeTime
      split
      · exact agrees_throw _
      · exact (agrees_writeValue_of_alikeBut among used _).bind fun _ => agrees_pure _
    exact writes s s' alike

end StateFile

/-! ## The usage tools -/

/-- Asking for an id uses the file with the id, and the draws. -/
theorem usesOnly_generateId (start : Session) (cfg : Config) (place : Place) :
    UsesOnly (Amid start cfg place) Cell.content {Cell.stateFile place ".kiji-bento-uuid", .draws}
      (Usage.generateId cfg) := by
  intro others given unused
  have used : Cell.stateFile place ".kiji-bento-uuid" ∉ others :=
    fun among => unused _ among (.inl rfl)
  have undrawn : Cell.draws ∉ others := fun among => unused _ among (.inr rfl)
  exact carries_generateId (fun level logger message => agrees_logComposed_of_alikeBut level logger _)
    (agrees_writeIdIfAbsent_of_alikeBut idName_mem used undrawn)

/-- Recording a use uses the file with the time of last use. -/
theorem usesOnly_recordUse (start : Session) (cfg : Config) (place : Place) (millis : Value) :
    UsesOnly (Amid start cfg place) Cell.content {Cell.stateFile place ".kiji-last-used"}
      (Usage.recordUse cfg millis) := by
  intro others given unused
  have used : Cell.stateFile place ".kiji-last-used" ∉ others := fun among => unused _ among rfl
  rw [recordUse_eq]
  refine (agrees_writeLastUsed_of_alikeBut lastUsedName_mem used millis).bind fun written => ?_
  exact (agrees_logComposed_of_alikeBut _ _ _).bind fun _ => agrees_pure _

theorem stateFiles_apart (place : Place) :
    ∀ c ∈ ({Cell.stateFile place ".kiji-bento-uuid", .draws} : Set Cell),
      c ∉ ({Cell.stateFile place ".kiji-last-used"} : Set Cell) := by
  intro c used
  rcases used with rfl | rfl
  · intro same
    have named := location_child_inj.1 (Cell.entry.inj same)
    simp at named
  · intro same
    cases same

end Checkin.Tool

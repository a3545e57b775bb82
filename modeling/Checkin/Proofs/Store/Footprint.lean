import Checkin.Proofs.FileTree.Paving
import Checkin.Proofs.Store.Times

/-!
# What operations on state files leave alone

An operation on a state file makes the directories above it and writes the file itself. Everything else that
was there stays as it was, however the operation ends (`Confined`); a log record, which may go to a file, is
not counted. Where an operation fails, no file has another content.
-/

namespace Checkin

/-- The log of a session goes to the file at a location. -/
def Session.LogsTo (s : Session) (l : Location) : Prop :=
  ∃ threshold, s.sink = .file threshold l

namespace Store

open Checkin.Text Checkin.Action FileTree

variable {p : Path} {s s' : Session} {l : Location} {own : Location → Prop} {made opened : FileTree}
  {content octets : List UInt8} {value : String}

/-- In a session a path leads to a location. -/
def LeadsTo (s : Session) (p : Path) (l : Location) : Prop :=
  s.world.files.find s.world.workingDirectory p .target = .ok ⟨l, 0⟩

/-- From one session to another nothing that was there is gone or something else, and files have the same
content, except for the log and what the path owns. What is new are directories on the way to the parent of
the path, and files that the path owns. -/
structure Confined (p : Path) (own : Location → Prop) (s s' : Session) : Prop where
  retains : Retains s.world.files s'.world.files
  files : ∀ {l content}, s.world.files.get? l = some (.file content) → ¬s.LogsTo l → ¬own l →
    s'.world.files.get? l = some (.file content)
  new : ∀ {l node}, s.world.files.get? l = none → s'.world.files.get? l = some node →
    (node = .directory ∧ ∃ q : Path, q.OnWayTo p.parent ∧ LeadsTo s' q l) ∨
      ((∃ content, node = .file content) ∧ own l)

/-- A value was written to the file that a path leads to. -/
structure Wrote (p : Path) (value : String) (s s' : Session) : Prop where
  confined : Confined p (LeadsTo s' p) s s'
  parent : s'.world.files.isDirectory s'.world.workingDirectory p.parent = .ok true
  holds : s'.world.files.read s'.world.workingDirectory p = .ok (encode (value ++ "\n"))

/-! ## What goes before a write -/

theorem Confined.refl (p : Path) (own : Location → Prop) (s : Session) : Confined p own s s := by
  refine ⟨Retains.refl _, fun there _ _ => there, ?_⟩
  intro l node absent there
  rw [absent] at there
  cases there

theorem get?_write_of_not_logsTo (elsewhere : ¬s.LogsTo l) (r : Record) :
    (s.write r).world.files.get? l = s.world.files.get? l := by
  by_cases sunk : ∃ threshold other, s.sink = .file threshold other
  · obtain ⟨threshold, other, sunk⟩ := sunk
    have distinct : l ≠ other := by
      rintro rfl
      exact elsewhere ⟨threshold, sunk⟩
    rw [Session.write_files_of_file sunk, get?_append_of_ne distinct]
  · rw [Session.write_world_of_no_file fun threshold other same => sunk ⟨threshold, other, same⟩]

/-- A record makes no file for itself. -/
theorem get?_write_of_absent (absent : s.world.files.get? l = none) (r : Record) :
    (s.write r).world.files.get? l = none := by
  by_cases sunk : s.LogsTo l
  · obtain ⟨threshold, sunk⟩ := sunk
    rw [Session.write_files_of_file sunk, append]
    simp only [absent]
  · rw [get?_write_of_not_logsTo sunk, absent]

/-- A log record before an operation adds to no file but the log. -/
theorem Confined.of_logged {before : Session} (logged : before = s ∨ ∃ r, before = s.write r)
    (confined : Confined p own before s') : Confined p own s s' := by
  rcases logged with rfl | ⟨r, rfl⟩
  · exact confined
  · have sameLog : ∀ l, (s.write r).LogsTo l ↔ s.LogsTo l := by
      intro l
      rw [Session.LogsTo, Session.write_sink, Session.LogsTo]
    refine ⟨(retains_write s r).trans confined.retains, ?_, ?_⟩
    · intro l content there elsewhere other
      refine confined.files ?_ (fun logs => elsewhere ((sameLog l).1 logs)) other
      rwa [get?_write_of_not_logsTo elsewhere]
    · intro l node absent there
      exact confined.new (get?_write_of_absent absent r) there

/-! ## One write -/

theorem confined_of_paves (paves : Paves s.world.files s.world.workingDirectory p.parent made)
    (own : Location → Prop) : Confined p own s (s.withFiles made) := by
  refine ⟨paves.grows.retains, fun there _ _ => paves.grows there, ?_⟩
  intro l node absent there
  exact .inl (paves.new absent there)

/-- A file that is opened once the directories above it are there, and written, is the only one that changes. -/
theorem confined_of_openFile (paves : Paves s.world.files s.world.workingDirectory p.parent made)
    (opens : made.openFile s.world.workingDirectory p = .ok (l, opened)) :
    Confined p (LeadsTo (s.withFiles (opened.set l (.file content))) p) s
      (s.withFiles (opened.set l (.file content))) := by
  have retains : Retains made (opened.set l (.file content)) := retains_set_of_openFile opens
  have leads : LeadsTo (s.withFiles (opened.set l (.file content))) p l := by
    obtain ⟨before, there⟩ := get?_of_openFile opens
    exact find_of_openFile opens (retains_set_file there)
  refine ⟨paves.grows.retains.trans retains, ?_, ?_⟩
  · intro l' content' there _ other
    have distinct : l' ≠ l := by
      rintro rfl
      exact other leads
    show (opened.set l (.file content)).get? l' = _
    rw [get?_set_of_openFile opens, if_neg distinct]
    exact paves.grows there
  · intro l' node absent there
    change (opened.set l (.file content)).get? l' = _ at there
    rw [get?_set_of_openFile opens] at there
    split at there
    · next same =>
      cases there
      exact .inr ⟨⟨content, rfl⟩, same ▸ leads⟩
    · obtain ⟨rfl, q, onWay, found⟩ := paves.new absent there
      exact .inl ⟨rfl, q, onWay, find_directory_of_retains retains found there⟩

/-- Writing a value ends well with the value in the file, or it fails and has changed no file. -/
theorem confined_writeValue (p : Path) (value : String) (s : Session) :
    (∃ failure s', exec (writeValue p value) s = (.error failure, s') ∧ Confined p (fun _ => False) s s') ∨
      ∃ s', exec (writeValue p value) s = (.ok (), s') ∧ Wrote p value s s' := by
  have paves := makeDirectories_paves s.world.files s.world.workingDirectory s.world.depth p.parent
  cases makes : s.world.files.makeDirectories s.world.workingDirectory s.world.depth p.parent with
  | mk result made =>
    rw [makes] at paves
    cases result with
    | error stopped =>
      exact .inl ⟨_, _, exec_writeValue_of_stopped makes value, confined_of_paves paves _⟩
    | ok done =>
      cases opens : made.openFile s.world.workingDirectory p with
      | error fault =>
        exact .inl ⟨_, _, exec_writeValue_of_refused makes opens value, confined_of_paves paves _⟩
      | ok opened =>
        obtain ⟨l, opened⟩ := opened
        have writes : Writes s.world.files s.world.workingDirectory s.world.depth p value
            (opened.set l (.file (encode (value ++ "\n")))) := ⟨made, l, opened, makes, opens, rfl⟩
        have parent : (opened.set l (.file (encode (value ++ "\n")))).isDirectory s.world.workingDirectory
            p.parent = .ok true :=
          isDirectory_of_retains (retains_set_of_openFile opens) (isDirectory_of_makeDirectories makes)
        exact .inr ⟨_, exec_writeValue_of_opened makes opens value,
          confined_of_openFile paves opens, parent, writes.read⟩

/-! ## Operations -/

/-- Reads a state file in the world as it is. -/
def reading {α : Type} (read : FileTree → Place → Path → Except Failure α) (p : Path) : Action α := do
  let world ← Action.world
  Action.ofExcept (read world.files world.workingDirectory p)

theorem exec_reading {α : Type} (read : FileTree → Place → Path → Except Failure α) (p : Path) (s : Session) :
    exec (reading read p) s = (read s.world.files s.world.workingDirectory p, s) := by
  rw [reading, exec_bind_of_ok (exec_world s), exec_ofExcept]

/-- Asking for an id fails and has changed no file, or gives the id that is there and has changed nothing at
all, or writes a new one. -/
theorem confined_writeIdIfAbsent (p : Path) (s : Session) :
    (∃ failure s', exec (writeIdIfAbsent p) s = (.error failure, s') ∧ Confined p (fun _ => False) s s') ∨
      (∃ id, exec (writeIdIfAbsent p) s = (.ok (id, false), s)) ∨
      ∃ id s', exec (writeIdIfAbsent p) s = (.ok (id, true), s') ∧ Wrote p id s s' := by
  have renewed : ∀ {before : Session}, (before = s ∨ ∃ r, before = s.write r) →
      exec (existingId? p) s = (.ok none, before) →
      (∃ failure s', exec (writeIdIfAbsent p) s = (.error failure, s') ∧ Confined p (fun _ => False) s s') ∨
        ∃ id s', exec (writeIdIfAbsent p) s = (.ok (id, true), s') ∧ Wrote p id s s' := by
    intro before logged absent
    have asked := exec_writeIdIfAbsent_of_none absent
    -- A draw changes no file, so that what a write leaves after it is left as if there were none.
    have undrawn : ∀ {own s'}, Confined p own before.drawn s' → Confined p own s s' := by
      intro own s' confined
      exact Confined.of_logged logged ⟨confined.retains, confined.files, confined.new⟩
    rcases confined_writeValue p (installationId before.nextDraw) before.drawn with
      ⟨failure, s', failed, confined⟩ | ⟨s', ran, confined, parent, holds⟩
    · rw [failed] at asked
      exact .inl ⟨failure, s', asked, undrawn confined⟩
    · rw [ran] at asked
      exact .inr ⟨_, s', asked, undrawn confined, parent, holds⟩
  rcases exec_existingId?_cases p s with ⟨failure, failed, -⟩ | ⟨id, present⟩ | ⟨-, absent⟩ |
    ⟨l, content, before, -, -, -, logged, absent⟩
  · exact .inl ⟨failure, s, exec_writeIdIfAbsent_of_error failed, .refl p _ s⟩
  · exact .inr (.inl ⟨id, exec_writeIdIfAbsent_of_some present⟩)
  · exact (renewed (.inl rfl) absent).imp_right .inr
  · exact (renewed logged absent).imp_right .inr

/-- Writing a known time fails and has changed no file, or the text of the time is in its file. -/
theorem confined_writeTime (p : Path) (millis : Value) (s : Session) :
    (∃ failure s', exec (writeTime p millis) s = (.error failure, s') ∧ Confined p (fun _ => False) s s') ∨
      ∃ text s', exec (writeTime p millis) s = (.ok millis, s') ∧ millis.text? = some text ∧
        Wrote p text s s' := by
  unfold writeTime
  cases spelled : millis.text? with
  | none => exact .inl ⟨_, s, rfl, .refl p _ s⟩
  | some text =>
    dsimp only
    rcases confined_writeValue p text s with ⟨failure, s', failed, confined⟩ | ⟨s', ran, wrote⟩
    · exact .inl ⟨failure, s', exec_bind_of_error failed _, confined⟩
    · exact .inr ⟨text, s', exec_bind_of_ok ran _, rfl, wrote⟩

/-- Writing a time fails and has changed no file, or the text of the time is in its file: of the one that was
given, or of the present one. -/
theorem confined_writeLastUsed (p : Path) (millis : Value) (s : Session) :
    (∃ failure s', exec (writeLastUsed p millis) s = (.error failure, s') ∧
        Confined p (fun _ => False) s s') ∨
      ∃ written text s', exec (writeLastUsed p millis) s = (.ok written, s') ∧ written.text? = some text ∧
        (millis ≠ .null → written = millis) ∧ Wrote p text s s' := by
  rw [exec_writeLastUsed]
  cases timed : givenTime s.world.now millis with
  | error failure => exact .inl ⟨failure, s, rfl, .refl p _ s⟩
  | ok written =>
    dsimp only
    rcases confined_writeTime p written s with failed | ⟨text, s', ran, spelled, wrote⟩
    · exact .inl failed
    · refine .inr ⟨written, text, s', ran, spelled, fun given => ?_, wrote⟩
      rw [givenTime_of_ne_null given] at timed
      cases timed
      rfl

/-- An operation on a state file that writes changes nothing but that file, whatever comes of it: it fails,
having made at most some of the directories above the file, or it leaves the value and a line feed in the
file. An operation that only reads, and one that finds an id, changes nothing. -/
theorem operations_confined (p : Path) (s : Session) :
    ((∃ failure s', exec (writeIdIfAbsent p) s = (.error failure, s') ∧ Confined p (fun _ => False) s s') ∨
      (∃ id, exec (writeIdIfAbsent p) s = (.ok (id, false), s)) ∨
      ∃ id s', exec (writeIdIfAbsent p) s = (.ok (id, true), s') ∧ Wrote p id s s') ∧
    (∀ millis,
      (∃ failure s', exec (writeLastUsed p millis) s = (.error failure, s') ∧
        Confined p (fun _ => False) s s') ∨
      ∃ written text s', exec (writeLastUsed p millis) s = (.ok written, s') ∧ written.text? = some text ∧
        (millis ≠ .null → written = millis) ∧ Wrote p text s s') ∧
    exec (reading readId p) s = (readId s.world.files s.world.workingDirectory p, s) ∧
    exec (reading readLastUsed p) s = (readLastUsed s.world.files s.world.workingDirectory p, s) :=
  ⟨confined_writeIdIfAbsent p s, fun millis => confined_writeLastUsed p millis s, exec_reading readId p s,
    exec_reading readLastUsed p s⟩

end Store

end Checkin

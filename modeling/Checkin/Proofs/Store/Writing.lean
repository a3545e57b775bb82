import Checkin.Proofs.Store.StateFile

/-!
# Writing state files

A value is written where its path leads once the directories above it are made (`Lands`). What that does
to a file which is already there is said by one invariant of sessions, `Holding`: a file keeps its content
unless the path lands on it.
-/

namespace Checkin.Store

open Checkin.Action FileTree

/-- With the directories above it made, a path leads to a file at a location. -/
def Lands (t : FileTree) (here : Place) (depth : Nat) (p : Path) (l : Location) : Prop :=
  ∃ made opened, t.makeDirectories here depth p.parent = (.ok (), made) ∧
    made.openFile here p = .ok (l, opened)

/-- A path names nothing, and yet it leads to a file at a location once the directories above it are
made. -/
def LandsLate (t : FileTree) (here : Place) (depth : Nat) (p : Path) (l : Location) : Prop :=
  t.exists? here p = .ok false ∧ Lands t here depth p l

/-- Nothing that was in a tree is gone since, the file at a location has the given content, and the log
does not go there. -/
structure Holding (t : FileTree) (l : Location) (content : List UInt8) (s : Session) : Prop where
  retains : Retains t s.world.files
  holds : s.world.files.get? l = some (.file content)
  apart : ∀ threshold, s.sink ≠ .file threshold l

variable {t : FileTree} {here : Place} {depth : Nat} {p : Path} {l other : Location} {content : List UInt8}
  {s : Session} {value : String}

/-- A path that leads to a file lands on it. -/
theorem Lands.eq_of_find (lands : Lands t here depth p l) (found : t.find here p .target = .ok ⟨other, 0⟩)
    (there : t.get? other = some (.file content)) : other = l := by
  obtain ⟨made, opened, makes, opens⟩ := lands
  have grown : Grows t made := by
    have grows := makeDirectories_grows t here depth p.parent
    rwa [makes] at grows
  have sameThere : made.find here p .target = .ok ⟨other, 0⟩ :=
    find_eq_ok_of_retains grown.retains found fun absent => by simp [there] at absent
  have landed : made.find here p .target = .ok ⟨l, 0⟩ :=
    find_target_of_find_file (openFile_eq_ok opens).1
  rw [sameThere] at landed
  cases landed
  rfl

/-! ## The invariant -/

theorem Holding.of_withFiles {files : FileTree} (holding : Holding t l content s)
    (retains : Retains s.world.files files) {content' : List UInt8}
    (holds : files.get? l = some (.file content')) : Holding t l content' (s.withFiles files) :=
  ⟨holding.retains.trans retains, holds, holding.apart⟩

theorem retains_write (s : Session) (r : Record) :
    Retains s.world.files (s.write r).world.files := by
  unfold Session.write
  cases s.sink with
  | file threshold location => exact retains_append _ _ _
  | _ => exact Retains.refl _

/-- A log record leaves a path leading to its file. -/
theorem find_of_logged {s' : Session}
    (found : s.world.files.find s.world.workingDirectory p .target = .ok ⟨l, 0⟩)
    (there : s.world.files.get? l = some (.file content)) (logged : s' = s ∨ ∃ r, s' = s.write r) :
    s'.world.workingDirectory = s.world.workingDirectory ∧
      s'.world.files.find s'.world.workingDirectory p .target = .ok ⟨l, 0⟩ ∧
      ∃ content', s'.world.files.get? l = some (.file content') := by
  rcases logged with rfl | ⟨r, rfl⟩
  · exact ⟨rfl, found, content, there⟩
  · have retains := retains_write s r
    have sameHere : (s.write r).world.workingDirectory = s.world.workingDirectory := by
      rw [Session.write_world]
    refine ⟨sameHere, ?_, retains.file there⟩
    rw [sameHere]
    exact find_eq_ok_of_retains retains found fun absent => by simp [there] at absent

/-- A log record is written elsewhere. -/
theorem Holding.write (holding : Holding t l content s) (r : Record) :
    Holding t l content (s.write r) := by
  obtain ⟨retains, holds, apart⟩ := holding
  refine ⟨retains.trans (retains_write s r), ?_, ?_⟩
  · unfold Session.write
    cases sunk : s.sink with
    | file threshold location =>
      have elsewhere : l ≠ location := by
        rintro rfl
        exact apart threshold sunk
      show (s.world.files.append location _).get? l = _
      rw [get?_append_of_ne elsewhere, holds]
    | _ => exact holds
  · rw [Session.write_sink]
    exact apart

/-! ## Writing a value -/

/-- What comes of writing a value to a state file, and the tree afterwards. Directories that were made stay
when the value cannot be written. -/
def written (t : FileTree) (here : Place) (depth : Nat) (p : Path) (value : String) :
    Except Failure Unit × FileTree :=
  match t.makeDirectories here depth p.parent with
  | (.error (fault, q), made) => (.error (.system fault (some q.text)), made)
  | (.ok (), made) =>
    match made.write here p (Text.encode (value ++ "\n")) with
    | .error fault => (.error (.system fault (some p.text)), made)
    | .ok files => (.ok (), files)

theorem exec_writeValue (p : Path) (value : String) (s : Session) :
    exec (writeValue p value) s =
      ((written s.world.files s.world.workingDirectory s.world.depth p value).1,
        s.withFiles (written s.world.files s.world.workingDirectory s.world.depth p value).2) := by
  unfold writeValue written
  rw [exec_bind_of_ok (exec_world s)]
  obtain ⟨made, files⟩ := s.world.files.makeDirectories s.world.workingDirectory s.world.depth p.parent
  dsimp only
  rw [exec_bind_of_ok (exec_setFiles files s)]
  cases made with
  | error stopped => rfl
  | ok done =>
    dsimp only
    rw [exec_bind, exec_onPath]
    cases files.write s.world.workingDirectory p (Text.encode (value ++ "\n")) <;> rfl

section Written

variable {made : FileTree} {opened : Location × FileTree} {fault : Fault} {q : Path}

theorem written_of_opened (makes : t.makeDirectories here depth p.parent = (.ok (), made))
    (opens : made.openFile here p = .ok opened) (value : String) :
    written t here depth p value =
      (.ok (), opened.2.set opened.1 (.file (Text.encode (value ++ "\n")))) := by
  simp only [written, makes, write_eq, opens, Except.map]

theorem written_of_refused (makes : t.makeDirectories here depth p.parent = (.ok (), made))
    (refused : made.openFile here p = .error fault) (value : String) :
    written t here depth p value = (.error (.system fault (some p.text)), made) := by
  simp only [written, makes, write_eq, refused, Except.map]

theorem exec_writeValue_of_opened
    (makes : s.world.files.makeDirectories s.world.workingDirectory s.world.depth p.parent = (.ok (), made))
    (opens : made.openFile s.world.workingDirectory p = .ok opened) (value : String) :
    exec (writeValue p value) s =
      (.ok (), s.withFiles (opened.2.set opened.1 (.file (Text.encode (value ++ "\n"))))) := by
  rw [exec_writeValue, written_of_opened makes opens]

theorem exec_writeValue_of_stopped
    (stopped : s.world.files.makeDirectories s.world.workingDirectory s.world.depth p.parent =
      (.error (fault, q), made))
    (value : String) :
    exec (writeValue p value) s = (.error (.system fault (some q.text)), s.withFiles made) := by
  simp only [exec_writeValue, written, stopped]

theorem exec_writeValue_of_refused
    (makes : s.world.files.makeDirectories s.world.workingDirectory s.world.depth p.parent = (.ok (), made))
    (refused : made.openFile s.world.workingDirectory p = .error fault) (value : String) :
    exec (writeValue p value) s = (.error (.system fault (some p.text)), s.withFiles made) := by
  rw [exec_writeValue, written_of_refused makes refused]

end Written

theorem exec_writeValue_of_lands (lands : Lands s.world.files s.world.workingDirectory s.world.depth p l)
    (value : String) :
    ∃ made opened, Grows s.world.files made ∧
      made.openFile s.world.workingDirectory p = .ok (l, opened) ∧
      exec (writeValue p value) s =
        (.ok (), s.withFiles (opened.set l (.file (Text.encode (value ++ "\n"))))) := by
  obtain ⟨made, opened, makes, opens⟩ := lands
  have grows := makeDirectories_grows s.world.files s.world.workingDirectory s.world.depth p.parent
  rw [makes] at grows
  exact ⟨made, opened, grows, opens, exec_writeValue_of_opened makes opens value⟩

/-- Where the path does not lead to a file, some directories are all that is made. -/
theorem exec_writeValue_of_not_lands
    (nowhere : ∀ l, ¬Lands s.world.files s.world.workingDirectory s.world.depth p l) (value : String) :
    ∃ failure made, Grows s.world.files made ∧
      exec (writeValue p value) s = (.error failure, s.withFiles made) := by
  have grows := makeDirectories_grows s.world.files s.world.workingDirectory s.world.depth p.parent
  cases makes : s.world.files.makeDirectories s.world.workingDirectory s.world.depth p.parent with
  | mk result made =>
    rw [makes] at grows
    cases result with
    | error stopped => exact ⟨_, made, grows, exec_writeValue_of_stopped makes value⟩
    | ok done =>
      cases opens : made.openFile s.world.workingDirectory p with
      | ok opened => exact absurd ⟨made, opened.2, makes, opens⟩ (nowhere opened.1)
      | error fault => exact ⟨_, made, grows, exec_writeValue_of_refused makes opens value⟩

/-- A file has the value that was written where it is. -/
theorem Holding.writeValue_of_lands (holding : Holding t l content s)
    (lands : Lands s.world.files s.world.workingDirectory s.world.depth p l) (value : String) :
    Holding t l (Text.encode (value ++ "\n")) (exec (writeValue p value) s).2 := by
  obtain ⟨made, opened, grows, opens, ran⟩ := exec_writeValue_of_lands lands value
  rw [ran]
  refine holding.of_withFiles (grows.retains.trans (retains_set_of_openFile opens)) ?_
  rw [get?_set_of_openFile opens, if_pos rfl]

/-- A file keeps its content when a value is written anywhere else. -/
theorem Holding.writeValue_of_not_lands (holding : Holding t l content s)
    (elsewhere : ¬Lands s.world.files s.world.workingDirectory s.world.depth p l) (value : String) :
    Holding t l content (exec (writeValue p value) s).2 := by
  by_cases landing : ∃ other, Lands s.world.files s.world.workingDirectory s.world.depth p other
  · obtain ⟨other, lands⟩ := landing
    obtain ⟨made, opened, grows, opens, ran⟩ := exec_writeValue_of_lands lands value
    have distinct : l ≠ other := by
      rintro rfl
      exact elsewhere lands
    rw [ran]
    refine holding.of_withFiles (grows.retains.trans (retains_set_of_openFile opens)) ?_
    rw [get?_set_of_openFile opens, if_neg distinct]
    exact grows holding.holds
  · obtain ⟨failure, made, grows, ran⟩ :=
      exec_writeValue_of_not_lands (fun l lands => landing ⟨l, lands⟩) value
    rw [ran]
    exact holding.of_withFiles grows.retains (grows holding.holds)

/-! ## Writing an id -/

/-- What is left to do when there is no id: one is drawn and written. -/
theorem exec_writeIdIfAbsent_of_none {s' : Session} (absent : exec (existingId? p) s = (.ok none, s')) :
    exec (writeIdIfAbsent p) s =
      ((exec (writeValue p (installationId s'.nextDraw)) s'.drawn).1.map
          fun _ => (installationId s'.nextDraw, true),
        (exec (writeValue p (installationId s'.nextDraw)) s'.drawn).2) := by
  unfold writeIdIfAbsent
  rw [exec_bind_of_ok absent]
  show exec (draw >>= _) s' = _
  rw [exec_bind_of_ok (exec_draw s'), exec_bind]
  cases exec (writeValue p (installationId s'.nextDraw)) s'.drawn with
  | mk result s'' => cases result <;> rfl

theorem exec_writeIdIfAbsent_of_some {id : String} {s' : Session}
    (present : exec (existingId? p) s = (.ok (some id), s')) :
    exec (writeIdIfAbsent p) s = (.ok (id, false), s') := by
  unfold writeIdIfAbsent
  rw [exec_bind_of_ok present]
  rfl

theorem exec_writeIdIfAbsent_of_error {failure : Failure} {s' : Session}
    (failed : exec (existingId? p) s = (.error failure, s')) :
    exec (writeIdIfAbsent p) s = (.error failure, s') := by
  unfold writeIdIfAbsent
  rw [exec_bind_of_error failed]

theorem Holding.drawn (holding : Holding t l content s) : Holding t l content s.drawn :=
  ⟨holding.retains, holding.holds, holding.apart⟩

/-- A file with an id keeps it, unless a path that names nothing lands on the file. -/
theorem Holding.writeIdIfAbsent_of_not_late (holding : Holding t l content s)
    (valued : valueOf? content = some value)
    (prompt : ¬LandsLate s.world.files s.world.workingDirectory s.world.depth p l) :
    Holding t l content (exec (writeIdIfAbsent p) s).2 := by
  rcases exec_existingId?_cases p s with ⟨failure, failed, -⟩ | ⟨id, present⟩ | ⟨missing, absent⟩ |
    ⟨blank, content', s', found, there, valueless, logged, absent⟩
  · rwa [exec_writeIdIfAbsent_of_error failed]
  · rwa [exec_writeIdIfAbsent_of_some present]
  · rw [exec_writeIdIfAbsent_of_none absent]
    exact holding.drawn.writeValue_of_not_lands (fun lands => prompt ⟨missing, lands⟩) _
  · -- The path leads to the blank file still, which is not the one with the id.
    obtain ⟨-, found', content'', there'⟩ := find_of_logged found there logged
    have holding' : Holding t l content s' := by
      rcases logged with rfl | ⟨r, rfl⟩
      · exact holding
      · exact holding.write r
    have elsewhere : ¬Lands s'.world.files s'.world.workingDirectory s'.world.depth p l := by
      intro lands
      have same := lands.eq_of_find found' there'
      rw [same, holding.holds] at there
      cases there
      rw [valued] at valueless
      cases valueless
    rw [exec_writeIdIfAbsent_of_none absent]
    exact holding'.drawn.writeValue_of_not_lands elsewhere _

/-- A path that names nothing and lands on a file gives it a new id. -/
theorem Holding.writeIdIfAbsent_of_late (holding : Holding t l content s)
    (late : LandsLate s.world.files s.world.workingDirectory s.world.depth p l) :
    Holding t l (Text.encode (installationId s.nextDraw ++ "\n")) (exec (writeIdIfAbsent p) s).2 := by
  obtain ⟨missing, lands⟩ := late
  rw [exec_writeIdIfAbsent_of_none (exec_existingId?_of_missing missing)]
  exact holding.drawn.writeValue_of_lands lands _

/-- An id that was new is in the file that its path leads to. -/
theorem find_of_writeIdIfAbsent {s' : Session}
    (ran : exec (writeIdIfAbsent p) s = (.ok (value, true), s')) :
    ∃ l content, s'.world.files.find s.world.workingDirectory p .target = .ok ⟨l, 0⟩ ∧
      s'.world.files.get? l = some (.file content) ∧ valueOf? content = some value := by
  have written : ∀ {before : Session}, before.world.workingDirectory = s.world.workingDirectory →
      exec (existingId? p) s = (.ok none, before) →
      ∃ l content, s'.world.files.find s.world.workingDirectory p .target = .ok ⟨l, 0⟩ ∧
        s'.world.files.get? l = some (.file content) ∧ valueOf? content = some value := by
    intro before sameHere absent
    rw [exec_writeIdIfAbsent_of_none absent] at ran
    by_cases landing : ∃ l, Lands before.drawn.world.files before.drawn.world.workingDirectory
        before.drawn.world.depth p l
    · obtain ⟨l, lands⟩ := landing
      obtain ⟨made, opened, -, opens, wrote⟩ :=
        exec_writeValue_of_lands lands (installationId before.nextDraw)
      obtain ⟨content, there⟩ := get?_of_openFile opens
      rw [wrote] at ran
      cases ran
      refine ⟨l, _, ?_, get?_set_self (ne_root_of_get?_eq_file there), valueOf?_installationId _⟩
      rw [← sameHere]
      exact find_of_openFile opens (retains_set_file there)
    · obtain ⟨failure, made, -, failed⟩ :=
        exec_writeValue_of_not_lands (fun l lands => landing ⟨l, lands⟩)
          (installationId before.nextDraw)
      rw [failed] at ran
      cases ran
  rcases exec_existingId?_cases p s with ⟨failure, failed, -⟩ | ⟨id, present⟩ | ⟨-, absent⟩ |
    ⟨blank, content, before, found, there, -, logged, absent⟩
  · rw [exec_writeIdIfAbsent_of_error failed] at ran
    cases ran
  · rw [exec_writeIdIfAbsent_of_some present] at ran
    cases ran
  · exact written rfl absent
  · exact written (find_of_logged found there logged).1 absent

/-! ## Writing a time of last use -/

/-- Writes a time of last use that is known. -/
def writeTime (p : Path) (value : Value) : Action Value :=
  match value.text? with
  | none => throw .tooManyDigits
  | some text => do
    writeValue p text
    return value

theorem writeLastUsed_null (p : Path) :
    writeLastUsed p .null = (Value.int <$> currentMillis) >>= writeTime p := rfl

theorem exec_currentMillis (s : Session) :
    exec (Value.int <$> currentMillis) s = ((s.world.now.scale 1000).wholePart.map Value.int, s) := by
  rw [exec_map, currentMillis, exec_bind_of_ok (exec_world s), exec_ofExcept]

/-- The time that is written: the one that was given, or else the present one. -/
def givenTime (now : Binary64) : Value → Except Failure Value
  | .null => (now.scale 1000).wholePart.map Value.int
  | millis => .ok millis

theorem givenTime_of_ne_null {now : Binary64} {millis : Value} (given : millis ≠ .null) :
    givenTime now millis = .ok millis := by
  cases millis <;> first | rfl | exact absurd rfl given

theorem exec_writeLastUsed (p : Path) (millis : Value) (s : Session) :
    exec (writeLastUsed p millis) s =
      match givenTime s.world.now millis with
      | .error failure => (.error failure, s)
      | .ok value => exec (writeTime p value) s := by
  cases millis with
  | null =>
    rw [writeLastUsed_null, exec_bind, exec_currentMillis, givenTime]
    cases (s.world.now.scale 1000).wholePart <;> rfl
  | _ => rfl

theorem Holding.writeTime_of_not_lands (holding : Holding t l content s) (millis : Value)
    (elsewhere : ¬Lands s.world.files s.world.workingDirectory s.world.depth p l) :
    Holding t l content (exec (writeTime p millis) s).2 := by
  unfold writeTime
  split
  · exact holding
  · next text _ =>
    have kept := holding.writeValue_of_not_lands elsewhere text
    rw [exec_bind]
    split <;> simp_all only [exec_pure]

/-- A file keeps its content when a time of last use is written anywhere else. -/
theorem Holding.writeLastUsed_of_not_lands (holding : Holding t l content s) (millis : Value)
    (elsewhere : ¬Lands s.world.files s.world.workingDirectory s.world.depth p l) :
    Holding t l content (exec (writeLastUsed p millis) s).2 := by
  rw [exec_writeLastUsed]
  split
  · exact holding
  · next value _ => exact holding.writeTime_of_not_lands value elsewhere

end Checkin.Store

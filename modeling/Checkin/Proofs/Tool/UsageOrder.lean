import Checkin.Proofs.Store.Times
import Checkin.Proofs.Tool.Cells
import Checkin.Proofs.Tool.Keeping
import Checkin.Proofs.Tool.Pipeline

/-!
# The order of the usage tools

Asking for an id and recording a use may be done in either order: what they give is the same, and so are the
files afterwards. Whichever comes first makes the directory of the state files. That makes no difference as
long as it brings nothing to light (`Clear`), since each tool goes the same way if the directory was made
before (`Ahead`), and from then on the two use different cells.
-/

namespace Checkin.Tool

open Checkin.Action Store FileTree

variable {s s' after start : Session} {cfg : Config} {place : Place} {millis value : Value} {id name : String}
  {view : Location → Option Node}

/-! ## With the directory made before -/

/-- The second of two sessions is the first one with the directory of the state files made, which brings
nothing to light. The log goes to no file. -/
structure Ahead (cfg : Config) (s s' : Session) : Prop where
  makes : s.world.files.makeDirectories s.world.workingDirectory s.world.depth cfg.stateDir =
    (.ok (), s'.world.files)
  clear : Clear s.world.files s.world.workingDirectory s.world.depth cfg
  aloud : ∀ threshold l, s.sink ≠ .file threshold l
  same : s' = s.withFiles s'.world.files

namespace Ahead

theorem workingDirectory (ahead : Ahead cfg s s') :
    s'.world.workingDirectory = s.world.workingDirectory := by
  rw [ahead.same, Session.withFiles]

theorem depth (ahead : Ahead cfg s s') : s'.world.depth = s.world.depth := by
  rw [ahead.same, Session.withFiles]

theorem clock (ahead : Ahead cfg s s') : s'.world.now = s.world.now := by
  rw [ahead.same, Session.withFiles]

theorem grows (ahead : Ahead cfg s s') : Grows s.world.files s'.world.files := by
  have grows := makeDirectories_grows s.world.files s.world.workingDirectory s.world.depth cfg.stateDir
  rwa [ahead.makes] at grows

theorem agrees_logComposed (level : Level) (logger : String) (message : Except Failure String) :
    Agrees (Ahead cfg) (logComposed level logger message) (logComposed level logger message) := by
  refine Action.agrees_logComposed ?_ ?_ ?_ logger message
  · intro s s' ahead
    rw [ahead.same, Session.withFiles]
  · intro s s' ahead
    exact ahead.clock.symm
  · intro s s' r ahead
    have aloud' : ∀ threshold l, s'.sink ≠ .file threshold l := by
      rw [ahead.same]
      exact ahead.aloud
    have world := Session.write_world_of_no_file ahead.aloud r
    have world' := Session.write_world_of_no_file aloud' r
    refine ⟨?_, ?_, ?_, ?_⟩
    · rw [world, world']
      exact ahead.makes
    · rw [world]
      exact ahead.clear
    · rw [Session.write_sink]
      exact ahead.aloud
    · rw [world']
      calc s'.write r = (s.withFiles s'.world.files).write r := congrArg (Session.write · r) ahead.same
        _ = (s.write r).withFiles s'.world.files := Session.write_withFiles ahead.aloud _ r

theorem agrees_existingId? :
    Agrees (Ahead cfg) (Store.existingId? cfg.idFile) (Store.existingId? cfg.idFile) := by
  refine Store.agrees_existingId? (fun level logger message => agrees_logComposed level logger _) ?_ ?_
  · intro s s' ahead
    rw [ahead.workingDirectory]
    exact (exists?_of_grows ahead.grows (ahead.clear.idFile ahead.makes)).symm
  · intro s s' ahead present
    obtain ⟨node, looked⟩ := exists?_eq_true_iff.1 present
    rw [ahead.workingDirectory, readText, readText, FileTree.read, FileTree.read, looked,
      stat_eq_ok_of_grows ahead.grows looked]

theorem agrees_draw : Agrees (Ahead cfg) draw draw := by
  intro s s' ahead
  rw [exec_draw, exec_draw]
  refine ⟨?_, ahead.makes, ahead.clear, ahead.aloud, ?_⟩
  · rw [ahead.same]
    rfl
  · rw [ahead.same]
    rfl

theorem exec_writeValue (ahead : Ahead cfg s s') (name value : String) :
    exec (writeValue (cfg.stateDir.child name) value) s' =
      exec (writeValue (cfg.stateDir.child name) value) s := by
  have makes := ahead.makes
  rw [← Path.parent_child cfg.stateDir name] at makes
  rw [Store.exec_writeValue, Store.exec_writeValue, ahead.workingDirectory, ahead.depth,
    written_of_made makes]
  rw [ahead.same]
  rfl

/-- Asking for an id goes the same way, and may leave the second session ahead of the first one still. -/
theorem carries_generateId :
    Carries (Ahead cfg) (fun s s' => s' = s ∨ Ahead cfg s s') (Usage.generateId cfg)
      (Usage.generateId cfg) := by
  refine Tool.carries_generateId (fun level logger message => ?_)
    (carries_writeIdIfAbsent agrees_existingId? agrees_draw (fun value => ?_) fun _ _ => .inr)
  · intro s s' alike
    rcases alike with rfl | ahead
    · exact ⟨rfl, .inl rfl⟩
    · obtain ⟨same, ahead'⟩ := agrees_logComposed level logger (.ok message) s s' ahead
      exact ⟨same, .inr ahead'⟩
  · intro s s' ahead
    have same := ahead.exec_writeValue ".kiji-bento-uuid" value
    exact ⟨congrArg Prod.fst same.symm, .inl (congrArg Prod.snd same)⟩

/-- Recording a use ends well in both sessions or in neither, and leaves the same. -/
theorem exec_recordUse_eq_ok_iff (ahead : Ahead cfg s s') :
    exec (Usage.recordUse cfg millis) s' = (.ok value, after) ↔
      exec (Usage.recordUse cfg millis) s = (.ok value, after) := by
  rw [recordUse_eq, exec_bind, exec_bind, exec_writeLastUsed, exec_writeLastUsed, ahead.clock]
  cases givenTime s.world.now millis with
  | error failure => simp
  | ok given =>
    dsimp only
    unfold writeTime
    cases given.text? with
    | none => simp
    | some text =>
      dsimp only
      rw [exec_bind, exec_bind, Config.lastUsedFile, ahead.exec_writeValue]

end Ahead

/-! ## Two actions in turn -/

/-- Two actions, done one after the other, end well with what they give, and the files look as a view says. -/
def InTurn {α β : Type} (a : Action α) (b : Action β) (s : Session) (x : α) (y : β)
    (view : Location → Option Node) : Prop :=
  ∃ between s', exec a s = (.ok x, between) ∧ exec b between = (.ok y, s') ∧ s'.world.files.get? = view

theorem InTurn.swap {α β : Type} {a : Action α} {b : Action β} {cells cells' : Set Cell} {x : α} {y : β}
    (inTurn : InTurn a b s x y view) (uses : UsesOnly (Amid start cfg place) Cell.content cells a)
    (uses' : UsesOnly (Amid start cfg place) Cell.content cells' b) (apart : ∀ c ∈ cells, c ∉ cells')
    (amid : Amid start cfg place s) : InTurn b a s y x view := by
  obtain ⟨between, s', first, second, rfl⟩ := inTurn
  obtain ⟨between', s'', first', second', same⟩ := uses.comm uses' apart amid first second
  refine ⟨between', s'', first', second', ?_⟩
  funext l
  exact Sum.inl.inj (congrFun same (.entry l))

/-- Where the directory of the state files is there, the order makes no difference. -/
theorem inTurn_comm (amid : Amid start cfg place s) :
    InTurn (Usage.generateId cfg) (Usage.recordUse cfg millis) s id value view ↔
      InTurn (Usage.recordUse cfg millis) (Usage.generateId cfg) s value id view := by
  have generates := usesOnly_generateId start cfg place
  have records := usesOnly_recordUse start cfg place millis
  have apart := stateFiles_apart place
  constructor
  · intro inTurn
    exact inTurn.swap generates records apart amid
  · intro inTurn
    exact inTurn.swap records generates (fun c used used' => apart c used' used) amid

theorem inTurn_generateId_iff (ahead : Ahead cfg s s') :
    InTurn (Usage.generateId cfg) (Usage.recordUse cfg millis) s id value view ↔
      InTurn (Usage.generateId cfg) (Usage.recordUse cfg millis) s' id value view := by
  obtain ⟨same, left⟩ := Ahead.carries_generateId s s' ahead
  have records : ∀ after,
      exec (Usage.recordUse cfg millis) (exec (Usage.generateId cfg) s').2 = (.ok value, after) ↔
        exec (Usage.recordUse cfg millis) (exec (Usage.generateId cfg) s).2 = (.ok value, after) := by
    intro after
    rcases left with equal | ahead'
    · rw [equal]
    · exact ahead'.exec_recordUse_eq_ok_iff
  constructor
  · rintro ⟨between, after, generated, recorded, looks⟩
    rw [generated] at same records
    exact ⟨(exec (Usage.generateId cfg) s').2, after, Prod.ext same.symm rfl,
      (records after).2 recorded, looks⟩
  · rintro ⟨between, after, generated, recorded, looks⟩
    rw [generated] at same records
    exact ⟨(exec (Usage.generateId cfg) s).2, after, Prod.ext same rfl, (records after).1 recorded, looks⟩

theorem inTurn_recordUse_iff (ahead : Ahead cfg s s') :
    InTurn (Usage.recordUse cfg millis) (Usage.generateId cfg) s value id view ↔
      InTurn (Usage.recordUse cfg millis) (Usage.generateId cfg) s' value id view := by
  unfold InTurn
  simp only [ahead.exec_recordUse_eq_ok_iff]

/-! ## What has been written -/

theorem logged_of_logComposed {level : Level} {logger : String} {message : Except Failure String}
    (told : exec (logComposed level logger message) s = (.ok (), after)) :
    after = s ∨ ∃ r, after = s.write r := by
  rw [exec_logComposed] at told
  split at told
  · split at told
    · cases told
    · cases told
    · cases told
      exact .inr ⟨_, rfl⟩
  · cases told
    exact .inl rfl

/-- A use that was recorded was written, and then put into the log, if it is shown. -/
theorem writes_of_recordUse (recorded : exec (Usage.recordUse cfg millis) s = (.ok value, after)) :
    ∃ text files, Writes s.world.files s.world.workingDirectory s.world.depth cfg.lastUsedFile text files ∧
      (after = s.withFiles files ∨ ∃ r, after = (s.withFiles files).write r) := by
  rw [recordUse_eq] at recorded
  obtain ⟨written, between, wrote, reported⟩ := exists_of_exec_bind recorded
  rw [exec_writeLastUsed] at wrote
  split at wrote
  · cases wrote
  · next given _ =>
    unfold writeTime at wrote
    split at wrote
    · cases wrote
    · next text _ =>
      obtain ⟨done, between', stored, same⟩ := exists_of_exec_bind wrote
      cases same
      obtain ⟨files, writes, rfl⟩ := exec_writeValue_eq_ok_iff.1 stored
      obtain ⟨told, last, logged, same⟩ := exists_of_exec_bind reported
      cases same
      exact ⟨text, files, writes, logged_of_logComposed logged⟩

theorem detached_standing (here : Place) (depth : Nat) :
    Detached fun s : Session => s.world.workingDirectory = here ∧ s.world.depth = depth where
  write s r _ standing := by rwa [Session.write_world]
  clock _ _ _ _ := trivial
  files _ _ standing := standing
  drawn _ standing := standing
  sink _ _ standing := standing

/-- In either order something has been written to a state file as it was at the start. -/
theorem exists_writes_of_inTurn (aloud : ∀ threshold l, s.sink ≠ .file threshold l)
    (inTurn : InTurn (Usage.generateId cfg) (Usage.recordUse cfg millis) s id value view ∨
      InTurn (Usage.recordUse cfg millis) (Usage.generateId cfg) s value id view) :
    ∃ name ∈ stateFileNames, ∃ text files,
      Writes s.world.files s.world.workingDirectory s.world.depth (cfg.stateDir.child name) text files := by
  rcases inTurn with ⟨between, after, generated, recorded, -⟩ | ⟨between, after, recorded, -, -⟩
  · have leaves := leaves_of_generateId aloud generated
    have standing := ((detached_standing s.world.workingDirectory s.world.depth).generateId cfg s ⟨rfl, rfl⟩).1
    rw [generated] at standing
    generalize left : between.world.files = files at leaves
    cases leaves with
    | kept there =>
      -- The files are then as they were at the start, so that the use is written to these.
      obtain ⟨text, files, writes, -⟩ := writes_of_recordUse recorded
      rw [left, standing.1, standing.2] at writes
      exact ⟨_, lastUsedName_mem, text, files, writes⟩
    | renewed absent writes => exact ⟨_, idName_mem, _, files, writes⟩
  · obtain ⟨text, files, writes, -⟩ := writes_of_recordUse recorded
    exact ⟨_, lastUsedName_mem, text, files, writes⟩

/-- The order makes no difference once it is known that something is written. -/
theorem inTurn_comm_of_writes {text : String} {files : FileTree}
    (aloud : ∀ threshold l, s.sink ≠ .file threshold l)
    (plain : ∀ name ∈ stateFileNames,
      s.world.files.linkTarget? s.world.workingDirectory (cfg.stateDir.child name) = none)
    (clear : Clear s.world.files s.world.workingDirectory s.world.depth cfg) (among : name ∈ stateFileNames)
    (writes : Writes s.world.files s.world.workingDirectory s.world.depth (cfg.stateDir.child name) text files) :
    InTurn (Usage.generateId cfg) (Usage.recordUse cfg millis) s id value view ↔
      InTurn (Usage.recordUse cfg millis) (Usage.generateId cfg) s value id view := by
  -- Both orders are compared from the session in which the directory is made already.
  obtain ⟨made, place, makes, houses, -⟩ := writes.exists_made among
  have ahead : Ahead cfg s (s.withFiles made) := ⟨makes, clear, aloud, rfl⟩
  have housed : Housed made s.world.workingDirectory cfg place := by
    refine ⟨isDirectory_of_makeDirectories makes, houses, fun name among => ?_⟩
    rw [clear.link makes name among, plain name among]
  have amid : Amid (s.withFiles made) cfg place (s.withFiles made) := ⟨rfl, rfl, aloud, housed⟩
  rw [inTurn_generateId_iff ahead, inTurn_recordUse_iff ahead]
  exact inTurn_comm amid

/-! ## The two orders -/

/-- Asking for an id and then recording a use ends well just if recording first and asking then does, with the
same id, the same time and the same files. The state files may be no links, making their directory may bring
nothing to light, and the log goes to no file. -/
theorem usageTools_commute (aloud : ∀ threshold l, s.sink ≠ .file threshold l)
    (plain : ∀ name ∈ stateFileNames,
      s.world.files.linkTarget? s.world.workingDirectory (cfg.stateDir.child name) = none)
    (clear : Clear s.world.files s.world.workingDirectory s.world.depth cfg) (millis value : Value)
    (id : String) (view : Location → Option Node) :
    InTurn (Usage.generateId cfg) (Usage.recordUse cfg millis) s id value view ↔
      InTurn (Usage.recordUse cfg millis) (Usage.generateId cfg) s value id view := by
  constructor
  · intro inTurn
    obtain ⟨name, among, text, files, writes⟩ := exists_writes_of_inTurn aloud (.inl inTurn)
    exact (inTurn_comm_of_writes aloud plain clear among writes).1 inTurn
  · intro inTurn
    obtain ⟨name, among, text, files, writes⟩ := exists_writes_of_inTurn aloud (.inr inTurn)
    exact (inTurn_comm_of_writes aloud plain clear among writes).2 inTurn

/-- In the ready world there is an id, and a time can be recorded. -/
theorem usageTools_commute_readyWorld : ∃ view,
    InTurn (Usage.generateId rootConfig) (Usage.recordUse rootConfig (.int 1000))
        (.start readyWorld .unsettled) "abc" (.int 1000) view ∧
      InTurn (Usage.recordUse rootConfig (.int 1000)) (Usage.generateId rootConfig)
        (.start readyWorld .unsettled) (.int 1000) "abc" view := by
  obtain ⟨files, writes⟩ := writes_readyWorld
  have read : readId readyWorld.files .root rootConfig.idFile = .ok "abc" :=
    toOption_eq_some_iff.1 idIn_readyWorld
  have generated : exec (Usage.generateId rootConfig) (.start readyWorld .unsettled) =
      (.ok "abc", .start readyWorld .unsettled) := by
    have asked := exec_writeIdIfAbsent_of_some
      (exec_existingId?_of_readId (s := .start readyWorld .unsettled) read)
    rw [generateId_eq, exec_bind_of_ok asked]
    rfl
  have recorded : exec (Usage.recordUse rootConfig (.int 1000)) (.start readyWorld .unsettled) =
      (.ok (.int 1000), Session.withFiles (.start readyWorld .unsettled) files) := by
    have short : (Text.digits 1000).length ≤ Text.maxDigits :=
      (Text.length_digits_le (show 1000 < 10 ^ 4 by decide) (by decide)).trans (by decide)
    have wrote : exec (writeLastUsed rootConfig.lastUsedFile (.int 1000)) (.start readyWorld .unsettled) =
        (.ok (.int 1000), Session.withFiles (.start readyWorld .unsettled) files) :=
      exec_writeLastUsed_int_eq_ok_iff.2 ⟨rfl, short, files, writes _, rfl⟩
    rw [recordUse_eq, exec_bind_of_ok wrote]
    rfl
  have inTurn : InTurn (Usage.generateId rootConfig) (Usage.recordUse rootConfig (.int 1000))
      (.start readyWorld .unsettled) "abc" (.int 1000) files.get? :=
    ⟨_, _, generated, recorded, rfl⟩
  have aloud : ∀ threshold l, (Session.start readyWorld .unsettled).sink ≠ .file threshold l := by
    intro threshold l sunk
    cases sunk
  exact ⟨files.get?, inTurn, (usageTools_commute aloud noLink_readyWorld
    (.of_isDirectory (isDirectory_root _ _)) (.int 1000) (.int 1000) "abc" files.get?).1 inTurn⟩

/-! ## Where the order makes a difference -/

theorem eq_of_reportId {answer : String × Bool} (reported : exec (reportId cfg answer) s = (.ok id, after)) :
    id = answer.1 := by
  unfold reportId at reported
  split at reported
  all_goals
    obtain ⟨done, between, -, same⟩ := exists_of_exec_bind reported
    cases same
    rfl

/-- Where no id is seen, the one that is given is new. -/
theorem eq_of_generateId_of_missing
    (hidden : s.world.files.exists? s.world.workingDirectory cfg.idFile = .ok false)
    (generated : exec (Usage.generateId cfg) s = (.ok id, after)) : id = installationId s.nextDraw := by
  rw [generateId_eq] at generated
  obtain ⟨answer, between, asked, reported⟩ := exists_of_exec_bind generated
  rw [exec_writeIdIfAbsent_of_none (exec_existingId?_of_missing hidden)] at asked
  cases wrote : (exec (writeValue cfg.idFile (installationId s.nextDraw)) s.drawn).1 with
  | error failure =>
    rw [wrote] at asked
    cases asked
  | ok done =>
    rw [wrote] at asked
    cases asked
    exact eq_of_reportId reported

/-- Where there is an id, it is the one that is given. -/
theorem eq_of_generateId_of_idIn {old : String}
    (there : idIn s.world.files s.world.workingDirectory cfg = some old)
    (generated : exec (Usage.generateId cfg) s = (.ok id, after)) : id = old := by
  have read : readId s.world.files s.world.workingDirectory cfg.idFile = .ok old :=
    toOption_eq_some_iff.1 there
  rw [generateId_eq, exec_bind_of_ok (exec_writeIdIfAbsent_of_some (exec_existingId?_of_readId read))]
    at generated
  exact eq_of_reportId generated

/-- Where making the directory of the state files brings an id to light, the order decides which id is given:
a new one, if it is asked for first, and the one that was there, if a use was recorded before. -/
theorem usageTools_differ {made : FileTree} {old : String} (aloud : ∀ threshold l, s.sink ≠ .file threshold l)
    (makes : s.world.files.makeDirectories s.world.workingDirectory s.world.depth cfg.stateDir = (.ok (), made))
    (plain : ∀ name ∈ stateFileNames,
      made.linkTarget? s.world.workingDirectory (cfg.stateDir.child name) = none)
    (hidden : s.world.files.exists? s.world.workingDirectory cfg.idFile = .ok false)
    (there : idIn made s.world.workingDirectory cfg = some old) :
    (InTurn (Usage.generateId cfg) (Usage.recordUse cfg millis) s id value view →
      id = installationId s.nextDraw) ∧
    (InTurn (Usage.recordUse cfg millis) (Usage.generateId cfg) s value id view → id = old) := by
  constructor
  · rintro ⟨between, after, generated, -, -⟩
    exact eq_of_generateId_of_missing hidden generated
  · rintro ⟨between, after, recorded, generated, -⟩
    obtain ⟨text, files, writes, logged⟩ := writes_of_recordUse recorded
    obtain ⟨made', place, makes', houses, writes'⟩ := writes.exists_made lastUsedName_mem
    cases makes.symm.trans makes'
    have housed : Housed made s.world.workingDirectory cfg place :=
      ⟨isDirectory_of_makeDirectories makes, houses, plain⟩
    -- The use is written beside the id that is in the light now, which stays as it is.
    obtain ⟨-, -, elsewhere⟩ := housed.write lastUsedName_mem writes'
    obtain ⟨octets, read, valued⟩ := idIn_eq_some_iff.1 there
    have still : idIn files s.world.workingDirectory cfg = some old :=
      idIn_eq_some_iff.2 ⟨octets, (elsewhere _ idName_mem (by simp) octets).2 read, valued⟩
    refine eq_of_generateId_of_idIn ?_ generated
    rw [(world_of_logged (s := s.withFiles files) aloud logged).1]
    exact still

end Checkin.Tool

import Checkin.Proofs.Tool.Keeping

/-!
# Operations on state files

What can be done to the state files, and what each operation does to a file with an id that neither a time
of last use nor a log is written to: the id stays, unless it is asked for by a path that names nothing and
yet leads to the file once the directories above it are made (`Late`). Then a new one takes its place.
-/

namespace Checkin

open Checkin.Action CommandLine Store FileTree

/-- What can be done to the state files: what the store offers, the usage tools, and the command line. -/
inductive Operation
  | readId (p : Path)
  | writeIdIfAbsent (p : Path)
  | readLastUsed (p : Path)
  | writeLastUsed (p : Path) (millis : Value)
  | generateId (cfg : Config)
  | recordUse (cfg : Config) (millis : Value)
  | command (args : List String)

namespace Operation

/-- The session after an operation, which may have failed. -/
def run (op : Operation) (s : Session) : Session :=
  match op with
  | .readId _ | .readLastUsed _ => s
  | .writeIdIfAbsent p => (exec (Store.writeIdIfAbsent p) s).2
  | .writeLastUsed p millis => (exec (Store.writeLastUsed p millis) s).2
  | .generateId cfg => (exec (Usage.generateId cfg) s).2
  | .recordUse cfg millis => (exec (Usage.recordUse cfg millis) s).2
  | .command args => ((Tool.run none args).run s).2

/-- From a session, an operation comes to ask for an id in a state file, in a session that may be a later
one. -/
inductive AsksForId : Operation → Session → Session → Path → Prop
  | writeIdIfAbsent {s p} : AsksForId (.writeIdIfAbsent p) s s p
  | generateId {s cfg} : AsksForId (.generateId cfg) s s cfg.idFile
  | command {s s' args settings cfg} : parse args = .run .generateUuid settings →
      exec (Tool.settleLog settings) s = (.ok (), s') → exec Tool.config s' = (.ok cfg, s') →
      AsksForId (.command args) s s' cfg.idFile

/-- From a session, an operation comes to record a time of last use in a state file. -/
inductive RecordsUse : Operation → Session → Session → Path → Prop
  | writeLastUsed {s p millis} : RecordsUse (.writeLastUsed p millis) s s p
  | recordUse {s cfg millis} : RecordsUse (.recordUse cfg millis) s s cfg.lastUsedFile
  | command {s s' args settings cfg} : parse args = .run .recordUsage settings →
      exec (Tool.settleLog settings) s = (.ok (), s') → exec Tool.config s' = (.ok cfg, s') →
      RecordsUse (.command args) s s' cfg.lastUsedFile

/-- The log goes to a file, from the start or because an operation opens one. -/
inductive LogsTo : Operation → Session → Location → Prop
  | already {op s threshold l} : s.sink = .file threshold l → LogsTo op s l
  | opened {s s' args command settings threshold l} : parse args = .run command settings →
      exec (Tool.settleLog settings) s = (.ok (), s') → s'.sink = .file threshold l →
      LogsTo (.command args) s l

/-- An operation writes neither a time of last use nor a log to the file at a location. -/
structure Apart (op : Operation) (s : Session) (l : Location) : Prop where
  lastUsed : ∀ {s' p}, RecordsUse op s s' p →
    ¬Lands s'.world.files s'.world.workingDirectory s'.world.depth p l
  log : ¬LogsTo op s l

/-- An operation asks for an id by a path that names nothing but lands on the file at a location. -/
def Late (op : Operation) (s : Session) (l : Location) : Prop :=
  ∃ s' p, AsksForId op s s' p ∧ LandsLate s'.world.files s'.world.workingDirectory s'.world.depth p l

end Operation

/-! ## One operation -/

namespace Store.Holding

variable {t : FileTree} {l : Location} {content : List UInt8} {s s' : Session} {value : String}

theorem quiet : Tool.Quiet (Holding t l content) (fun _ => True) :=
  ⟨⟨fun _ r _ holding => holding.write r, fun _ _ _ _ => trivial⟩,
    fun _ _ holding => ⟨holding.retains, holding.holds, holding.apart⟩⟩

theorem generateId {cfg : Config}
    (asked : Holding t l content (exec (writeIdIfAbsent cfg.idFile) s).2) :
    Holding t l content (exec (Usage.generateId cfg) s).2 := by
  rw [Tool.generateId_eq]
  exact Keeps.exec_bind (fun answer => quiet.reportId cfg answer) asked

theorem recordUse {cfg : Config} {millis : Value}
    (wrote : Holding t l content (exec (writeLastUsed cfg.lastUsedFile millis) s).2) :
    Holding t l content (exec (Usage.recordUse cfg millis) s).2 := by
  rw [Tool.recordUse_eq]
  exact Keeps.exec_bind (fun _ => quiet.reportUse cfg fun _ _ => trivial) wrote

/-- Settling the log opens at most a file other than the one at the location. -/
theorem settleLog {settings : Settings} (holding : Holding t l content s)
    (settled : exec (Tool.settleLog settings) s = (.ok (), s'))
    (log : ∀ threshold, s'.sink ≠ .file threshold l) : Holding t l content s' := by
  rcases Tool.exec_settleLog_of_ok settled with rfl | ⟨p, location, files, opened, rfl⟩
  · exact ⟨holding.retains, holding.holds, log⟩
  · have grows := openFile_grows opened
    exact ⟨holding.retains.trans grows.retains, grows holding.holds, log⟩

theorem closing (holding : Holding t l content s) (environment : Environment) :
    Holding t l content (Tool.closing environment s) :=
  ⟨holding.retains, holding.holds, by simp [Tool.closing]⟩

/-- The end of a run adds no more than a log record. -/
theorem runCommand {args : List String} {command : Command} {settings : Settings}
    (asks : parse args = .run command settings)
    (attempted : Holding t l content (exec (Tool.attempt command settings) s).2) :
    Holding t l content ((Tool.run none args).run s).2 := by
  rw [Tool.run_none_eq, Tool.exec_respond_of_run asks]
  exact Holding.closing (Tool.exec_runCommand_keeps attempted fun _ _ holding => holding.write _) _

end Store.Holding

namespace Operation

variable {t : FileTree} {l : Location} {content : List UInt8} {s s' : Session} {id : String}
  {op : Operation}

theorem holding_execute_of_not_late {command : Command} {settings : Settings}
    (holding : Holding t l content s) (valued : valueOf? content = some id)
    (apart : command = .recordUsage → ∀ cfg, exec Tool.config s = (.ok cfg, s) →
      ¬Lands s.world.files s.world.workingDirectory s.world.depth cfg.lastUsedFile l)
    (prompt : command = .generateUuid → ∀ cfg, exec Tool.config s = (.ok cfg, s) →
      ¬LandsLate s.world.files s.world.workingDirectory s.world.depth cfg.idFile l) :
    Holding t l content (exec (Tool.execute command settings) s).2 := by
  cases command with
  | checkin => exact (Holding.quiet.checkin s holding).1
  | env => exact (Holding.quiet.env settings.kijiHome s holding).1
  | generateUuid =>
    rcases Tool.exec_config_cases s with ⟨cfg, configured⟩ | ⟨failure, refused⟩
    · rw [Tool.execute, exec_bind_of_ok configured, exec_discard]
      exact Holding.generateId (holding.writeIdIfAbsent_of_not_late valued (prompt rfl cfg configured))
    · rw [Tool.execute, exec_bind_of_error refused]
      exact holding
  | recordUsage =>
    rcases Tool.exec_config_cases s with ⟨cfg, configured⟩ | ⟨failure, refused⟩
    · rw [Tool.execute, exec_bind_of_ok configured, exec_discard]
      exact Holding.recordUse (holding.writeLastUsed_of_not_lands .null (apart rfl cfg configured))
    · rw [Tool.execute, exec_bind_of_error refused]
      exact holding

/-- An id stays in its file throughout an operation that is not late. -/
theorem holding_run_of_not_late (holding : Holding t l content s) (valued : valueOf? content = some id)
    (apart : Apart op s l) (prompt : ¬Late op s l) : Holding t l content (op.run s) := by
  cases op with
  | readId | readLastUsed => exact holding
  | writeIdIfAbsent p =>
    exact holding.writeIdIfAbsent_of_not_late valued fun late => prompt ⟨s, p, .writeIdIfAbsent, late⟩
  | writeLastUsed p millis =>
    exact holding.writeLastUsed_of_not_lands millis (apart.lastUsed .writeLastUsed)
  | generateId cfg =>
    refine Holding.generateId (holding.writeIdIfAbsent_of_not_late valued fun late => ?_)
    exact prompt ⟨s, _, .generateId, late⟩
  | recordUse cfg millis =>
    exact Holding.recordUse (holding.writeLastUsed_of_not_lands millis (apart.lastUsed .recordUse))
  | command args =>
    cases asks : parse args with
    | help =>
      rw [run, Tool.run_none_eq, Tool.exec_respond_of_help asks]
      refine Holding.closing ?_ _
      exact ⟨holding.retains, holding.holds, holding.apart⟩
    | reject =>
      rw [run, Tool.run_none_eq, Tool.exec_respond_of_reject asks]
      refine Holding.closing ?_ _
      exact ⟨holding.retains, holding.holds, holding.apart⟩
    | run command settings =>
      refine Holding.runCommand asks ?_
      cases settled : exec (Tool.settleLog settings) s with
      | mk result s' =>
        cases result with
        | error failure =>
          rw [Tool.attempt, exec_bind_of_error settled, Tool.exec_settleLog_of_error settled]
          exact holding
        | ok done =>
          have holding' := holding.settleLog settled fun _ sunk => apart.log (.opened asks settled sunk)
          rw [Tool.attempt, exec_bind_of_ok settled]
          refine holding_execute_of_not_late holding' valued ?_ ?_
          · rintro rfl cfg configured
            exact apart.lastUsed (.command asks settled configured)
          · rintro rfl cfg configured late
            exact prompt ⟨s', _, .command asks settled configured, late⟩

theorem nextDraw_of_settleLog {settings : Settings}
    (settled : exec (Tool.settleLog settings) s = (.ok (), s')) : s'.nextDraw = s.nextDraw := by
  rcases Tool.exec_settleLog_of_ok settled with rfl | ⟨p, location, files, -, rfl⟩ <;> rfl

/-- A late operation replaces the id by a new one. -/
theorem holding_run_of_late (holding : Holding t l content s) (apart : Apart op s l) (late : Late op s l) :
    Holding t l (Text.encode (installationId s.nextDraw ++ "\n")) (op.run s) := by
  obtain ⟨s', p, asks, landsLate⟩ := late
  cases asks with
  | writeIdIfAbsent => exact holding.writeIdIfAbsent_of_late landsLate
  | generateId => exact Holding.generateId (holding.writeIdIfAbsent_of_late landsLate)
  | command asks settled configured =>
    have holding' := holding.settleLog settled fun _ sunk => apart.log (.opened asks settled sunk)
    refine Holding.runCommand asks ?_
    rw [Tool.attempt, exec_bind_of_ok settled, Tool.execute, exec_bind_of_ok configured, exec_discard,
      ← nextDraw_of_settleLog settled]
    exact Holding.generateId (holding'.writeIdIfAbsent_of_late landsLate)

end Operation

end Checkin

import Checkin.Proofs.Store.Writing
import Checkin.Proofs.Tool.Commands

/-!
# What commands leave alone

A property in which files, random draws and the place of the log have no part is kept by the two commands
that write files, as far as their log records keep it. A run keeps what its command keeps, if the report of a
failure keeps it too.
-/

namespace Checkin.Tool

open Checkin.Action Checkin.CommandLine Store

variable {property : Session → Prop} {s : Session}

/-- A property in which files, draws and the place of the log have no part. -/
structure Detached (property : Session → Prop) : Prop extends LogQuiet property fun _ => True where
  files : ∀ s files, property s → property (s.withFiles files)
  drawn : ∀ s, property s → property s.drawn
  sink : ∀ s sink, property s → property { s with sink }

namespace Detached

theorem setFiles (detached : Detached property) (files : FileTree) :
    Keeps property (fun _ => True) (Action.setFiles files) :=
  keeps_modify fun s holds => detached.files s files holds

theorem onPath (_ : Detached property) {α : Type} (p : Path) (result : Except Fault α) :
    Keeps property (fun _ => True) (Action.onPath p result) :=
  keeps_onPath fun _ _ => trivial

theorem ofExcept (_ : Detached property) {α : Type} (result : Except Failure α) :
    Keeps property (fun _ => True) (Action.ofExcept result) :=
  keeps_ofExcept fun _ _ => trivial

theorem config (detached : Detached property) : Keeps property (fun _ => True) Tool.config :=
  keeps_world.bind fun _ => detached.ofExcept _

/-! ## State files -/

theorem writeValue (detached : Detached property) (p : Path) (value : String) :
    Keeps property (fun _ => True) (Store.writeValue p value) := by
  apply keeps_world.bind
  intro world
  split
  next made files _ =>
  apply (detached.setFiles files).bind
  intro _
  split
  · exact keeps_throw trivial
  · exact (detached.onPath p _).bind fun files => detached.setFiles files

theorem existingId? (detached : Detached property) (p : Path) :
    Keeps property (fun _ => True) (Store.existingId? p) := by
  apply keeps_world.bind
  intro world
  apply (detached.onPath p _).bind
  intro present
  split
  · apply (detached.ofExcept _).bind
    intro text
    dsimp only
    split
    · exact (detached.log (by decide) _ _).bind fun _ => keeps_pure _
    · exact keeps_pure _
  · exact keeps_pure _

theorem writeIdIfAbsent (detached : Detached property) (p : Path) :
    Keeps property (fun _ => True) (Store.writeIdIfAbsent p) := by
  have draws : Keeps property (fun _ => True) draw := by
    intro s holds
    rw [exec_draw]
    exact ⟨detached.drawn s holds, fun _ _ => trivial⟩
  apply (detached.existingId? p).bind
  intro existing
  split
  · exact keeps_pure _
  · exact draws.bind fun _ => (detached.writeValue p _).bind fun _ => keeps_pure _

theorem writeLastUsed (detached : Detached property) (p : Path) :
    Keeps property (fun _ => True) (Store.writeLastUsed p .null) := by
  have takesTime : Keeps property (fun _ => True) (Value.int <$> currentMillis) :=
    (keeps_world.bind fun _ => detached.ofExcept _).map _
  rw [writeLastUsed_null]
  apply takesTime.bind
  intro value
  unfold writeTime
  split
  · exact keeps_throw trivial
  · exact (detached.writeValue p _).bind fun _ => keeps_pure _

theorem generateId (detached : Detached property) (cfg : Config) :
    Keeps property (fun _ => True) (Usage.generateId cfg) := by
  rw [generateId_eq]
  exact (detached.writeIdIfAbsent cfg.idFile).bind fun answer => detached.reportId cfg answer

theorem recordUse (detached : Detached property) (cfg : Config) :
    Keeps property (fun _ => True) (Usage.recordUse cfg .null) := by
  rw [recordUse_eq]
  exact (detached.writeLastUsed cfg.lastUsedFile).bind fun _ =>
    detached.reportUse cfg fun _ _ => trivial

/-! ## The log -/

theorem settleLog (detached : Detached property) (settings : Settings) :
    Keeps property (fun _ => True) (Tool.settleLog settings) := by
  intro s holds
  refine ⟨?_, fun _ _ => trivial⟩
  cases settled : exec (Tool.settleLog settings) s with
  | mk result s' =>
    cases result with
    | error failure => rwa [exec_settleLog_of_error settled]
    | ok done =>
      rcases exec_settleLog_of_ok settled with rfl | ⟨p, location, files, -, rfl⟩
      · exact detached.sink s _ holds
      · exact detached.sink _ _ (detached.files s files holds)

end Detached

/-- A run keeps what is kept until its command has ended, unless the report of a failure takes it away. -/
theorem exec_runCommand_keeps {command : Command} {settings : Settings}
    (left : property (exec (attempt command settings) s).2)
    (reports : ∀ s message, property s → property (s.write ⟨.error, logger, message⟩)) :
    property (exec (runCommand command settings) s).2 := by
  cases tried : exec (attempt command settings) s with
  | mk result s' =>
    rw [tried] at left
    cases result with
    | ok done => rwa [exec_runCommand_of_ok tried]
    | error failure =>
      rw [exec_runCommand_of_error tried]
      split
      · rcases exec_log_cases .error logger (failureLine command failure) s' with
          hidden | shown | ⟨cause, -, failed⟩
        · rwa [hidden]
        · rw [shown]
          exact reports s' _ left
        · rwa [failed]
      · exact left

end Checkin.Tool

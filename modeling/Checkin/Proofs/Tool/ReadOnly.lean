import Checkin.Proofs.FileTree.Change
import Checkin.Proofs.Tool.Keeping
import Checkin.Proofs.Tool.Pipeline

/-!
# Runs that only look

A run that is asked for help, or whose arguments are refused, leaves all files as they are, and so does a run
of `checkin` or `env`, whatever comes of it, but for the file that its log goes to.
-/

namespace Checkin.Tool

open Checkin.Action Checkin.CommandLine FileTree

variable {t : FileTree} {l : Location} {s : Session} {command : Command} {settings : Settings}

/-! ## Sessions in which nothing but the log is written -/

/-- A session has the files of a tree, but for what its log added to the file that it goes to. -/
inductive OnlyLogs (t : FileTree) : Option Location → Session → Prop
  | aloud {s : Session} : (∀ threshold l, s.sink ≠ .file threshold l) → s.world.files = t →
      OnlyLogs t none s
  | toFile {s : Session} {threshold : Level} {l : Location} {added : List UInt8} :
      s.sink = .file threshold l → Appended t s.world.files l added → OnlyLogs t (some l) s

variable {log : Option Location}

theorem OnlyLogs.write (logs : OnlyLogs t log s) (r : Record) : OnlyLogs t log (s.write r) := by
  cases logs with
  | aloud aloud files =>
    refine .aloud (by rwa [Session.write_sink]) ?_
    rw [Session.write_world_of_no_file aloud, files]
  | toFile sunk appended =>
    have written := appended.append (Text.encode (r.line s.world.now))
    rw [← Session.write_files_of_file sunk] at written
    exact .toFile (by rw [Session.write_sink, sunk]) written

theorem OnlyLogs.quiet : Quiet (OnlyLogs t log) fun _ => True := by
  refine ⟨⟨fun s r _ logs => logs.write r, fun _ _ _ _ => trivial⟩, fun s output logs => ?_⟩
  cases logs with
  | aloud aloud files => exact .aloud aloud files
  | toFile sunk appended => exact .toFile sunk appended

/-- Settling the log fails without a trace, or it opens no more than the log file. -/
theorem onlyLogs_of_settleLog (settings : Settings) (aloud : ∀ threshold l, s.sink ≠ .file threshold l) :
    OnlyLogs s.world.files none (exec (settleLog settings) s).2 ∨
    ∃ file p l, settings.logFile = some file ∧ logPath s.world.workingDirectory file = .ok p ∧
      s.world.files.find s.world.workingDirectory p .file = .ok ⟨l, 0⟩ ∧
      OnlyLogs s.world.files (some l) (exec (settleLog settings) s).2 := by
  by_cases unnamed : settings.logFile = none ∨ settings.logFile = some ""
  · rw [exec_settleLog_of_unnamed unnamed]
    exact .inl (.aloud (by simp) rfl)
  · obtain ⟨file, named, notEmpty⟩ := exists_logFile unnamed
    rw [exec_settleLog_of_named named notEmpty]
    cases pathed : logPath s.world.workingDirectory file with
    | error failure => exact .inl (.aloud aloud rfl)
    | ok p =>
      dsimp only
      cases opened : s.world.files.openFile s.world.workingDirectory p with
      | error fault => exact .inl (.aloud aloud rfl)
      | ok place =>
        obtain ⟨l, files⟩ := place
        exact .inr ⟨file, p, l, named, pathed, (openFile_eq_ok opened).1,
          .toFile rfl (appended_of_openFile opened)⟩

/-- A command that only looks writes nothing but its log. -/
theorem onlyLogs_runCommand (looks : command = .checkin ∨ command = .env)
    (settled : OnlyLogs t log (exec (settleLog settings) s).2) :
    OnlyLogs t log (exec (runCommand command settings) s).2 := by
  have executes : Keeps (OnlyLogs t log) (fun _ => True) (execute command settings) := by
    rcases looks with rfl | rfl
    · exact OnlyLogs.quiet.checkin
    · exact OnlyLogs.quiet.env settings.kijiHome
  exact exec_runCommand_keeps (Keeps.exec_bind (fun _ => executes) settled) fun _ _ logs => logs.write _

/-! ## Whole runs -/

/-- What a run of a command leaves has the files of before, but for a log file that is new or has more
content at its end. -/
def LeavesAllButLog (settings : Settings) (w : World) (files : FileTree) : Prop :=
  files = w.files ∨
    ∃ file p l added, settings.logFile = some file ∧ logPath w.workingDirectory file = .ok p ∧
      w.files.find w.workingDirectory p .file = .ok ⟨l, 0⟩ ∧ Appended w.files files l added

/-- A run that asks for help or is refused changes no file, though a log file may be named among its
arguments. A run that looks, well or not, changes no file but its log file, at whose end it may add. -/
theorem run_leaves_files (program : Option Path) (args : List String) (w : World) :
    (∀ scope, parse args = .help scope →
      ((run program args).run (.start w .unsettled)).2.world.files = w.files) ∧
    (∀ scope rejection, parse args = .reject scope rejection →
      ((run program args).run (.start w .unsettled)).2.world.files = w.files) ∧
    (∀ command settings, parse args = .run command settings → command = .checkin ∨ command = .env →
      LeavesAllButLog settings w ((run program args).run (.start w .unsettled)).2.world.files) := by
  obtain ⟨result, s, -, untouched, -, ⟨failure, -, ran⟩ | ⟨-, ran⟩⟩ := run_cases program args w
  · have files : s.world.files = w.files := by rw [untouched.world]
    rw [ran]
    exact ⟨fun _ _ => files, fun _ _ _ => files, fun _ _ _ _ => .inl files⟩
  · have files : s.world.files = w.files := by rw [untouched.world]
    have here : s.world.workingDirectory = w.workingDirectory := by rw [untouched.world]
    rw [ran]
    refine ⟨?_, ?_, ?_⟩
    · intro scope asks
      rw [exec_respond_of_help asks]
      exact files
    · intro scope rejection asks
      rw [exec_respond_of_reject asks]
      exact files
    · intro command settings asks looks
      have aloud : ∀ threshold l, s.sink ≠ .file threshold l := by
        rw [untouched.sink]
        exact fun _ _ => nofun
      rw [exec_respond_of_run asks]
      rcases onlyLogs_of_settleLog settings aloud with settled | ⟨file, p, l, named, pathed, found, settled⟩
      · obtain ⟨-, same⟩ := onlyLogs_runCommand looks settled
        exact .inl (same.trans files)
      · rw [files, here] at found
        rw [here] at pathed
        obtain ⟨⟩ | ⟨-, appended⟩ := onlyLogs_runCommand looks settled
        rw [files] at appended
        exact .inr ⟨file, p, l, _, named, pathed, found, appended⟩

/-- Arguments that are refused leave no log file; a check-in without state files leaves at most that. -/
theorem run_leaves_files_runLog :
    ((run none ["--log-file=/run.log", "check"]).run (.start default .unsettled)).2.world.files = .empty ∧
    LeavesAllButLog { Settings.default with logFile := some "/run.log" } default
      ((run none ["--log-file=/run.log", "checkin"]).run (.start default .unsettled)).2.world.files := by
  have refused : parse ["--log-file=/run.log", "check"] = .reject .tool (.unknownCommand "check") := by cbv
  have asks : parse ["--log-file=/run.log", "checkin"] =
      .run .checkin { Settings.default with logFile := some "/run.log" } := by cbv
  exact ⟨(run_leaves_files none _ default).2.1 _ _ refused,
    (run_leaves_files none _ default).2.2 _ _ asks (.inl rfl)⟩

end Checkin.Tool

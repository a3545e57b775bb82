import Checkin.Proofs.Tool.Failures

/-!
# Endings of runs

A run of a command ends with exit code 0 and no error in the log, or with 1 and one record of the failure,
unless a failure that is not reported ends it.
-/

namespace Checkin.Tool

open Checkin.Action Checkin.CommandLine Store

variable {settings : Settings} {s s' : Session} {command : Command} {failure : Failure} {now : Binary64}
  {second millis : Int}

/-- The failures of a run that are not reported: its log file has a path with a NUL character in it, or its
command fails in such a way. -/
inductive RunEscapes (command : Command) (settings : Settings) (s : Session) : Failure → Prop
  | logFile {file p} : settings.logFile = some file → file ≠ "" →
      logPath s.world.workingDirectory file = .ok p → p.text.toList.contains '\x00' = true →
      RunEscapes command settings s (.system .embeddedNul (some p.text))
  | command {after cause} : exec (settleLog settings) s = (.ok (), after) →
      Escapes settings after command cause → RunEscapes command settings s cause

theorem isReported_of_logPath {here : Place} {file : String} (failed : logPath here file = .error failure) :
    failure.isReported = true := by
  simp only [logPath] at failed
  split at failed
  · cases failed
  · rcases error_of_bind_eq_error failed with failed | ⟨directory, -, failed⟩
    · rw [Config.workingPath_failure failed]
      rfl
    · cases failed

theorem runEscapes_of_settleLog (failed : exec (settleLog settings) s = (.error failure, s'))
    (unreported : failure.isReported = false) : RunEscapes command settings s failure := by
  by_cases unnamed : settings.logFile = none ∨ settings.logFile = some ""
  · rw [exec_settleLog_of_unnamed unnamed] at failed
    cases failed
  · obtain ⟨file, named, notEmpty⟩ := exists_logFile unnamed
    rw [exec_settleLog_of_named named notEmpty] at failed
    split at failed
    · next cause pathless =>
      cases failed
      rw [isReported_of_logPath pathless] at unreported
      cases unreported
    · next p path =>
      split at failed
      · next fault unopened =>
        cases failed
        cases nul : p.text.toList.contains '\x00' with
        | true =>
          rw [FileTree.openFile_of_nul nul] at unopened
          cases unopened
          exact .logFile named notEmpty path nul
        | false =>
          have numbered := FileTree.number?_isSome_of_openFile nul unopened
          simp [Failure.isReported, numbered] at unreported
      · cases failed

/-- What is tried in a run fails without a report for the listed causes and for no other. -/
theorem runEscapes_iff (clock : now.wholePart = .ok second)
    (timed : (now.scale 1000).wholePart = .ok millis) (calm : Calm now s) :
    (∃ s', exec (attempt command settings) s = (.error failure, s') ∧ failure.isReported = false) ↔
      RunEscapes command settings s failure := by
  have settledCalm : ∀ {s'}, exec (settleLog settings) s = (.ok (), s') → Calm now s' := by
    intro s' settled
    rcases exec_settleLog_of_ok settled with rfl | ⟨p, location, files, -, rfl⟩
    · exact ⟨calm.clock, calm.journal⟩
    · exact ⟨calm.clock, calm.journal⟩
  constructor
  · rintro ⟨s', failed, unreported⟩
    cases settled : exec (settleLog settings) s with
    | mk result s₁ =>
      cases result with
      | error cause =>
        rw [attempt, exec_bind_of_error settled] at failed
        cases failed
        exact runEscapes_of_settleLog settled unreported
      | ok done =>
        rw [attempt, exec_bind_of_ok settled] at failed
        exact .command settled (escapes_of_execute clock timed (settledCalm settled) failed unreported)
  · intro escapes
    cases escapes with
    | logFile named notEmpty path nul =>
      have stops := exec_settleLog_of_named named notEmpty s
      simp only [path, FileTree.openFile_of_nul nul] at stops
      exact ⟨s, by rw [attempt, exec_bind_of_error stops], rfl⟩
    | command settled escapes =>
      obtain ⟨s', failed⟩ := exec_execute_of_escapes ((settledCalm settled).clock ▸ timed) escapes
      exact ⟨s', by rw [attempt, exec_bind_of_ok settled, failed], escapes.isReported⟩

/-! ## The record of a failure -/

theorem shows_error (sink : Sink) : sink.shows .error = true := by
  unfold Sink.shows
  cases sink.threshold <;> decide

/-- The errors in the journal of a session. -/
def errorRecords (s : Session) : List Record :=
  s.journal.filter fun r => r.level = .error

theorem Calm.errorRecords_eq_nil (calm : Calm now s) : errorRecords s = [] := by
  rw [errorRecords, List.filter_eq_nil_iff]
  intro r member
  simpa using calm.journal r member

theorem Calm.errorRecords_write (calm : Calm now s) (logger message : String) :
    errorRecords (s.write ⟨.error, logger, message⟩) = [⟨.error, logger, message⟩] := by
  have earlier := calm.errorRecords_eq_nil
  rw [errorRecords] at earlier
  rw [errorRecords, Session.write_journal, List.filter_append, earlier]
  rfl

/-- How a run ends, by what comes of what is tried in it. -/
theorem run_of_attempt {args : List String} (asks : parse args = .run command settings)
    (clock : now.wholePart = .ok second) (calm : Calm now s) :
    (∃ s', exec (attempt command settings) s = (.ok (), s') ∧
      ((run none args).run s).1 = .exit 0 ∧ errorRecords ((run none args).run s).2 = []) ∨
    (∃ failure s', exec (attempt command settings) s = (.error failure, s') ∧
      failure.isReported = true ∧ ((run none args).run s).1 = .exit 1 ∧
      errorRecords ((run none args).run s).2 = [⟨.error, logger, failureLine command failure⟩]) ∨
    (∃ failure s', exec (attempt command settings) s = (.error failure, s') ∧
      failure.isReported = false ∧ ((run none args).run s).1 = .escape failure) := by
  have calm' := calm.attempt command settings
  rw [run_none_eq, exec_respond_of_run asks]
  cases tried : exec (attempt command settings) s with
  | mk result s' =>
    rw [tried] at calm'
    cases result with
    | ok done =>
      rw [exec_runCommand_of_ok tried]
      exact .inl ⟨s', rfl, rfl, calm'.errorRecords_eq_nil⟩
    | error failure =>
      rw [exec_runCommand_of_error tried]
      cases reported : failure.isReported with
      | false => exact .inr (.inr ⟨failure, s', rfl, reported, rfl⟩)
      | true =>
        rw [if_pos rfl, exec_log, if_pos (shows_error s'.sink), calm'.clock, clock]
        exact .inr (.inl ⟨failure, s', rfl, reported, rfl, calm'.errorRecords_write _ _⟩)

/-- Unless a failure escapes, a run of a command that finds the time on its clock ends with exit code 0 and
no error in the log, if the log could be settled and the command succeeded, and else with exit code 1 and
one error in the log, which names the command and the failure. A failure escapes for the listed causes and
for no other. -/
theorem run_ends {w : World} {sink : Sink} {args : List String}
    (timed : (w.now.scale 1000).wholePart = .ok millis) (asks : parse args = .run command settings) :
    (∀ failure, ((run none args).run (.start w sink)).1 = .escape failure ↔
      RunEscapes command settings (.start w sink) failure) ∧
    ((∃ failure, RunEscapes command settings (.start w sink) failure) ∨
      (∃ s', exec (attempt command settings) (.start w sink) = (.ok (), s')) ∧
        ((run none args).run (.start w sink)).1 = .exit 0 ∧
        errorRecords ((run none args).run (.start w sink)).2 = [] ∨
      ∃ failure s', exec (attempt command settings) (.start w sink) = (.error failure, s') ∧
        ((run none args).run (.start w sink)).1 = .exit 1 ∧
        errorRecords ((run none args).run (.start w sink)).2 =
          [⟨.error, "kiji-bento", command.name ++ " failed: " ++ failure.text⟩]) := by
  obtain ⟨second, clock⟩ := Binary64.wholePart_of_scale (by decide) timed
  have calm : Calm w.now (.start w sink) := ⟨rfl, fun r member => by cases member⟩
  have causes : ∀ failure, (∃ s', exec (attempt command settings) (.start w sink) = (.error failure, s') ∧
      failure.isReported = false) ↔ RunEscapes command settings (.start w sink) failure :=
    fun _ => runEscapes_iff clock timed calm
  rcases run_of_attempt asks clock calm with ⟨s', tried, ended, errors⟩ |
    ⟨cause, s', tried, reported, ended, errors⟩ | ⟨cause, s', tried, unreported, ended⟩
  · refine ⟨?_, .inr (.inl ⟨⟨s', tried⟩, ended, errors⟩)⟩
    intro failure
    rw [ended, ← causes, tried]
    simp
  · refine ⟨?_, .inr (.inr ⟨cause, s', tried, ended, errors⟩)⟩
    intro failure
    rw [ended, ← causes, tried]
    simp only [reduceCtorEq, false_iff, not_exists, not_and]
    rintro s'' ⟨⟩
    simp [reported]
  · refine ⟨?_, .inl ⟨cause, (causes cause).1 ⟨s', tried, unreported⟩⟩⟩
    intro failure
    rw [ended, ← causes, tried]
    constructor
    · rintro ⟨⟩
      exact ⟨s', rfl, unreported⟩
    · rintro ⟨s'', ⟨⟩, -⟩
      rfl

/-- A world in which the file with the id, at the root, holds an octet that begins no character. -/
def garbledWorld : World :=
  { (default : World) with
    files := FileTree.empty.set [".kiji-bento-uuid"] (.file [0xff])
    environment := ⟨[("KIJI_BENTO_STATE_DIR", "/")]⟩ }

/-- There, the command that prints a check-in does not end with an exit code. -/
theorem run_ends_garbledWorld :
    ((run none ["checkin"]).run (.start garbledWorld .unsettled)).1 =
      .escape (.undecodable ⟨0xff, 0, 0, .start⟩) := by
  obtain ⟨millis, timed⟩ : ∃ millis, (garbledWorld.now.scale 1000).wholePart = .ok millis := ⟨_, rfl⟩
  have asks : parse ["checkin"] = .run .checkin .default := by cbv
  let settled : Session := { Session.start garbledWorld .unsettled with sink := .standardError .info }
  have settles : exec (settleLog .default) (.start garbledWorld .unsettled) = (.ok (), settled) :=
    exec_settleLog_of_unnamed (.inl rfl) _
  have configured : exec config settled = (.ok ⟨⟨.absolute, []⟩, ⟨.absolute, []⟩⟩, settled) := by
    rw [exec_config]
    rfl
  have found : garbledWorld.files.find .root ⟨.absolute, [".kiji-bento-uuid"]⟩ .target =
      .ok ⟨[".kiji-bento-uuid"], 0⟩ := by
    rw [FileTree.find_eq_walk (by decide) (by decide),
      FileTree.walk_plain (by decide) (by decide) (by simp) (by decide) (by decide)]
    rfl
  have read : garbledWorld.files.read .root ⟨.absolute, [".kiji-bento-uuid"]⟩ = .ok [0xff] :=
    FileTree.read_eq_content found rfl
  exact ((run_ends timed asks).1 _).2 (.command settles (.checkinId configured (.octets read (by rfl))))

end Checkin.Tool

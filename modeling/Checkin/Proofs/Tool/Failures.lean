import Checkin.Proofs.Binary64
import Checkin.Proofs.Config
import Checkin.Proofs.Store.Faults
import Checkin.Proofs.Tool.Keeping

/-!
# Failures of the tool

Most failures of a command are reported. `Escapes` lists those that are not, by their causes: a command fails
without a report for one of these causes and for no other.
-/

namespace Checkin.Tool

open Checkin.Action Checkin.CommandLine Store

/-! ## Before a failure is reported -/

/-- The clock shows a given time, and the journal has no error in it. -/
structure Calm (now : Binary64) (s : Session) : Prop where
  clock : s.world.now = now
  journal : ∀ r ∈ s.journal, r.level ≠ .error

namespace Calm

variable {now : Binary64}

theorem quiet : Quiet (Calm now) (fun _ => True) := by
  refine ⟨⟨?_, fun _ _ _ _ => trivial⟩, fun _ _ calm => ⟨calm.clock, calm.journal⟩⟩
  intro s r minor calm
  refine ⟨by rw [Session.write_world]; exact calm.clock, ?_⟩
  rw [Session.write_journal]
  intro other member
  rcases List.mem_append.1 member with earlier | last
  · exact calm.journal other earlier
  · rw [List.mem_singleton.1 last]
    exact minor

theorem detached : Detached (Calm now) := by
  refine ⟨quiet.toLogQuiet, ?_, ?_, ?_⟩
  · exact fun _ _ calm => ⟨calm.clock, calm.journal⟩
  · exact fun _ calm => ⟨calm.clock, calm.journal⟩
  · exact fun _ _ calm => ⟨calm.clock, calm.journal⟩

theorem execute (command : Command) (settings : Settings) :
    Keeps (Calm now) (fun _ => True) (Tool.execute command settings) := by
  cases command with
  | checkin => exact quiet.checkin
  | env => exact quiet.env settings.kijiHome
  | generateUuid => exact detached.config.bind fun cfg => (detached.generateId cfg).map _
  | recordUsage => exact detached.config.bind fun cfg => (detached.recordUse cfg).map _

theorem attempt {s : Session} (calm : Calm now s) (command : Command) (settings : Settings) :
    Calm now (exec (Tool.attempt command settings) s).2 :=
  ((detached.settleLog settings).bind fun _ => execute command settings) s calm |>.1

end Calm

/-! ## Failures of commands that are not reported -/

/-- Whether a command looks the configuration up. -/
def NeedsConfig (command : Command) (settings : Settings) : Prop :=
  command ≠ .env ∨ settings.kijiHome = none ∨ settings.kijiHome = some ""

/-- The failures of a command that are not reported, with their causes in the session in which the command
starts. -/
inductive Escapes (settings : Settings) (s : Session) : Command → Failure → Prop
  /-- The home directory is needed and not known. -/
  | noHome {command} : NeedsConfig command settings → exec config s = (.error .noHome, s) →
      Escapes settings s command .noHome
  /-- A home directory is asked for by a name with a NUL character in it. -/
  | userName {command} : NeedsConfig command settings →
      exec config s = (.error (.system .embeddedNul none), s) →
      Escapes settings s command (.system .embeddedNul none)
  | generateUuid {cfg failure} : exec config s = (.ok cfg, s) →
      Unanswerable s.world.files s.world.workingDirectory s.world.depth cfg.stateDir ".kiji-bento-uuid" failure →
      Escapes settings s .generateUuid failure
  | recordUsage {cfg failure} : exec config s = (.ok cfg, s) →
      Unmakeable s.world.files s.world.workingDirectory s.world.depth cfg.stateDir failure →
      Escapes settings s .recordUsage failure
  | checkinId {cfg failure} : exec config s = (.ok cfg, s) →
      Unreadable s.world.files s.world.workingDirectory cfg.idFile failure →
      Escapes settings s .checkin failure
  | checkinLastUsed {cfg id failure} : exec config s = (.ok cfg, s) →
      Store.readId s.world.files s.world.workingDirectory cfg.idFile = .ok id →
      Unreadable s.world.files s.world.workingDirectory cfg.lastUsedFile failure →
      Escapes settings s .checkin failure
  /-- The root has a NUL character in it, or leads through too many links. -/
  | unresolvedRoot {p fault} : exec (chosenRoot settings.kijiHome) s = (.ok p, s) →
      s.world.files.resolve s.world.workingDirectory s.world.linkDepth p = .error fault → fault.number? = none →
      Escapes settings s .env (.system fault none)
  | loopingRoot {p root} : exec (chosenRoot settings.kijiHome) s = (.ok p, s) →
      s.world.files.resolve s.world.workingDirectory s.world.linkDepth p = .ok root →
      s.world.files.stat s.world.workingDirectory root = .error .tooManyLinks →
      Escapes settings s .env (.linkLoop root.text)
  /-- The root leads through a link whose target has a NUL character in it. -/
  | unusableRoot {p root} : exec (chosenRoot settings.kijiHome) s = (.ok p, s) →
      s.world.files.resolve s.world.workingDirectory s.world.linkDepth p = .ok root →
      s.world.files.stat s.world.workingDirectory root = .error .embeddedNul →
      Escapes settings s .env (.system .embeddedNul none)

variable {settings : Settings} {s s' : Session} {command : Command} {failure : Failure}

theorem Escapes.isReported (escapes : Escapes settings s command failure) :
    failure.isReported = false := by
  cases escapes with
  | noHome | userName | loopingRoot | unusableRoot => rfl
  | generateUuid _ unanswerable => exact unanswerable.isReported
  | recordUsage _ unmakeable => exact unmakeable.isReported
  | checkinId _ unreadable => exact unreadable.isReported
  | checkinLastUsed _ _ unreadable => exact unreadable.isReported
  | unresolvedRoot _ _ unnumbered => simp [Failure.isReported, unnumbered]

theorem exec_chosenRoot_of_error {cause : Failure}
    (unset : settings.kijiHome = none ∨ settings.kijiHome = some "")
    (failed : exec config s = (.error cause, s)) :
    exec (chosenRoot settings.kijiHome) s = (.error cause, s) := by
  unfold chosenRoot
  rcases unset with unset | unset <;>
  · rw [unset]
    simp only [exec_map, failed, Except.map]

/-- Where the configuration is needed and not there, its failure is that of the command. -/
theorem exec_execute_of_config {cause : Failure} (needed : NeedsConfig command settings)
    (failed : exec config s = (.error cause, s)) :
    exec (execute command settings) s = (.error cause, s) := by
  cases command with
  | generateUuid => exact exec_bind_of_error failed _
  | recordUsage => exact exec_bind_of_error failed _
  | checkin => exact exec_bind_of_error failed _
  | env =>
    have unset : settings.kijiHome = none ∨ settings.kijiHome = some "" := by
      rcases needed with other | unset
      · exact absurd rfl other
      · exact unset
    rw [execute, env_eq]
    exact exec_bind_of_error (exec_chosenRoot_of_error unset failed) _

/-- A command without the configuration that it needs stops there, if the failure is not one to report. -/
theorem exec_runCommand_of_config {cause : Failure} (needed : NeedsConfig command settings)
    (unlogged : settings.logFile = none ∨ settings.logFile = some "")
    (failed : (exec config s).1 = .error cause) (unreported : cause.isReported = false) :
    exec (runCommand command settings) s =
      (.error cause, { s with sink := .standardError (threshold settings) }) := by
  have refused : exec config { s with sink := .standardError (threshold settings) } =
      (.error cause, { s with sink := .standardError (threshold settings) }) := by
    rw [exec_config] at failed ⊢
    exact congrArg (·, _) failed
  have attempted : exec (attempt command settings) s =
      (.error cause, { s with sink := .standardError (threshold settings) }) := by
    rw [attempt, exec_bind_of_ok (exec_settleLog_of_unnamed unlogged s), exec_execute_of_config needed refused]
  rw [exec_runCommand_of_error attempted, unreported]
  rfl

/-- With a time on the clock, its numeral is written. -/
theorem exec_writeLastUsed_of_time {millis : Int} (timed : (s.world.now.scale 1000).wholePart = .ok millis)
    (p : Path) :
    exec (Store.writeLastUsed p .null) s =
      exec (do Store.writeValue p (Text.numeral millis); return .int millis) s := by
  have clock : exec (Value.int <$> currentMillis) s = (.ok (.int millis), s) := by
    rw [exec_currentMillis, timed]
    rfl
  have written : (Value.int millis).text? = some (Text.numeral millis) := by
    show Text.numeral? millis = _
    exact Binary64.numeral?_of_scale timed
  rw [writeLastUsed_null, exec_bind_of_ok clock, writeTime, written]

theorem exec_execute_of_escapes {millis : Int} (timed : (s.world.now.scale 1000).wholePart = .ok millis)
    (escapes : Escapes settings s command failure) :
    ∃ s', exec (execute command settings) s = (.error failure, s') := by
  cases escapes with
  | noHome needed failed => exact ⟨s, exec_execute_of_config needed failed⟩
  | userName needed failed => exact ⟨s, exec_execute_of_config needed failed⟩
  | @generateUuid cfg _ configured unanswerable =>
    obtain ⟨s', failed⟩ := exec_writeIdIfAbsent_of_unanswerable unanswerable
    refine ⟨s', ?_⟩
    rw [execute, exec_bind_of_ok configured, exec_discard, generateId_eq]
    have failed' : exec (writeIdIfAbsent cfg.idFile) s = (.error failure, s') := failed
    rw [exec_bind_of_error failed']
    rfl
  | @recordUsage cfg _ configured unmakeable =>
    have above : cfg.lastUsedFile.parent = cfg.stateDir := Path.parent_child _ _
    obtain ⟨s', failed⟩ := exec_writeValue_of_unmakeable (s := s) (p := cfg.lastUsedFile)
      (above.symm ▸ unmakeable) (Text.numeral millis)
    have failed' : exec (Store.writeLastUsed cfg.lastUsedFile .null) s = (.error failure, s') := by
      rw [exec_writeLastUsed_of_time timed, exec_bind_of_error failed]
    refine ⟨s', ?_⟩
    rw [execute, exec_bind_of_ok configured, exec_discard, recordUse_eq, exec_bind_of_error failed']
    rfl
  | checkinId configured unreadable =>
    refine ⟨s, ?_⟩
    rw [execute, checkin, exec_bind_of_ok configured, exec_bind_of_ok (exec_world s), Store.readId,
      readValue_eq_error_of_unreadable unreadable]
    rfl
  | checkinLastUsed configured read unreadable =>
    refine ⟨s, ?_⟩
    rw [execute, checkin, exec_bind_of_ok configured, exec_bind_of_ok (exec_world s), read,
      readLastUsed_eq_error_of_unreadable unreadable]
    rfl
  | unresolvedRoot chosen failed _ =>
    refine ⟨s, ?_⟩
    rw [execute, env_eq, exec_bind_of_ok chosen, exec_bind, resolvedRoot, exec_bind_of_ok (exec_world s),
      failed]
    rfl
  | loopingRoot chosen resolved loops =>
    refine ⟨s, ?_⟩
    rw [execute, env_eq, exec_bind_of_ok chosen, exec_bind, resolvedRoot, exec_bind_of_ok (exec_world s),
      resolved]
    simp only [loops, exec_throw]
  | unusableRoot chosen resolved nul =>
    refine ⟨s, ?_⟩
    rw [execute, env_eq, exec_bind_of_ok chosen, exec_bind, resolvedRoot, exec_bind_of_ok (exec_world s),
      resolved]
    simp only [nul, exec_throw]

/-! ## No other failure escapes -/

variable {now : Binary64} {second millis : Int}

/-- While the clock shows a time, what is logged does not fail. -/
theorem Calm.quietOf {failing : Failure → Prop} (clock : now.wholePart = .ok second) :
    Quiet (Calm now) failing := by
  refine ⟨⟨fun s r minor calm => quiet.write s r minor calm, ?_⟩,
    fun s output calm => quiet.print s output calm⟩
  intro s failure calm stopped
  rw [calm.clock, clock] at stopped
  cases stopped

theorem escapes_of_config {cause : Failure} (needed : NeedsConfig command settings)
    (refused : exec config s = (.error cause, s))
    (failed : exec (execute command settings) s = (.error failure, s'))
    (unreported : failure.isReported = false) : Escapes settings s command failure := by
  rw [exec_execute_of_config needed refused] at failed
  cases failed
  have unloaded := refused
  rw [exec_config] at unloaded
  injection unloaded with unloaded
  rcases Config.load_failure unloaded with rfl | rfl | rfl
  · exact .noHome needed refused
  · exact .userName needed refused
  · cases unreported

theorem escapes_of_generateUuid (clock : now.wholePart = .ok second) (calm : Calm now s)
    (failed : exec (execute .generateUuid settings) s = (.error failure, s'))
    (unreported : failure.isReported = false) : Escapes settings s .generateUuid failure := by
  rcases exec_config_cases s with ⟨cfg, configured⟩ | ⟨cause, refused⟩
  · rw [execute, exec_bind_of_ok configured, exec_discard, generateId_eq, exec_bind] at failed
    cases asked : exec (Store.writeIdIfAbsent cfg.idFile) s with
    | mk result s₁ =>
      rw [asked] at failed
      cases result with
      | error cause =>
        cases failed
        exact .generateUuid configured
          (unanswerable_of_writeIdIfAbsent (by decide) (calm.clock ▸ clock) asked unreported)
      | ok answer =>
        have calm' : Calm now s₁ := by
          have kept := (Calm.detached.writeIdIfAbsent cfg.idFile s calm).1
          rwa [asked] at kept
        obtain ⟨id, s₂, said, -⟩ := ((Calm.quietOf clock).reportId cfg answer).exec_eq_ok calm'
        simp only [said] at failed
        cases failed
  · exact escapes_of_config (.inl (by decide)) refused failed unreported

theorem escapes_of_recordUsage (clock : now.wholePart = .ok second)
    (timed : (now.scale 1000).wholePart = .ok millis) (calm : Calm now s)
    (failed : exec (execute .recordUsage settings) s = (.error failure, s'))
    (unreported : failure.isReported = false) : Escapes settings s .recordUsage failure := by
  rcases exec_config_cases s with ⟨cfg, configured⟩ | ⟨cause, refused⟩
  · rw [execute, exec_bind_of_ok configured, exec_discard, recordUse_eq, exec_bind,
      exec_writeLastUsed_of_time (calm.clock ▸ timed), exec_bind] at failed
    cases wrote : exec (Store.writeValue cfg.lastUsedFile (Text.numeral millis)) s with
    | mk result s₁ =>
      rw [wrote] at failed
      cases result with
      | error cause =>
        cases failed
        exact .recordUsage configured (unmakeable_of_writeValue (by decide) wrote unreported)
      | ok done =>
        have calm' : Calm now s₁ := by
          have kept := (Calm.detached.writeValue cfg.lastUsedFile (Text.numeral millis) s calm).1
          rwa [wrote] at kept
        have whole : ∀ cause, Usage.wholeMillis (.int millis) = .error cause → False :=
          fun _ failed => by cases failed
        obtain ⟨written, s₂, said, -⟩ := ((Calm.quietOf clock).reportUse cfg whole).exec_eq_ok calm'
        simp only [exec_pure, said] at failed
        cases failed
  · exact escapes_of_config (.inl (by decide)) refused failed unreported

theorem escapes_of_checkin (clock : now.wholePart = .ok second) (calm : Calm now s)
    (failed : exec (execute .checkin settings) s = (.error failure, s'))
    (unreported : failure.isReported = false) : Escapes settings s .checkin failure := by
  rcases exec_config_cases s with ⟨cfg, configured⟩ | ⟨cause, refused⟩
  · rw [execute, checkin, exec_bind_of_ok configured, exec_bind_of_ok (exec_world s)] at failed
    cases read : Store.readId s.world.files s.world.workingDirectory cfg.idFile with
    | error cause =>
      rw [read, exec_bind_of_error (exec_ofExcept (.error cause) s)] at failed
      cases failed
      exact .checkinId configured (unreadable_of_readValue read unreported)
    | ok id =>
      rw [read, exec_bind_of_ok (exec_ofExcept (.ok id) s)] at failed
      cases readTime : Store.readLastUsed s.world.files s.world.workingDirectory cfg.lastUsedFile with
      | error cause =>
        rw [readTime, exec_bind_of_error (exec_ofExcept (.error cause) s)] at failed
        cases failed
        exact .checkinLastUsed configured read (unreadable_of_readLastUsed readTime unreported)
      | ok lastUsed =>
        rw [readTime, exec_bind_of_ok (exec_ofExcept (.ok lastUsed) s)] at failed
        have quiet : Quiet (Calm now) fun failure => failure.isReported = true := Calm.quietOf clock
        have reports := (quiet.build (fun _ reported => reported)
          ((Builder.new.withId (.text id)).withLastUsedMillis (.int lastUsed))).bind
            fun message => quiet.prints message.wire
        have reported : failure.isReported = true := (reports s calm).2 failure (congrArg Prod.fst failed)
        rw [unreported] at reported
        cases reported
  · exact escapes_of_config (.inl (by decide)) refused failed unreported

/-- There is a root for `env` unless it takes a configuration that is not there. -/
theorem exec_chosenRoot_cases (settings : Settings) (s : Session) :
    (∃ p, exec (chosenRoot settings.kijiHome) s = (.ok p, s)) ∨
    ∃ cause, NeedsConfig .env settings ∧ exec config s = (.error cause, s) := by
  by_cases unset : settings.kijiHome = none ∨ settings.kijiHome = some ""
  · rcases exec_config_cases s with ⟨cfg, configured⟩ | ⟨cause, refused⟩
    · refine .inl ⟨cfg.kijiHome, ?_⟩
      unfold chosenRoot
      rcases unset with unset | unset <;>
      · rw [unset]
        simp only [exec_map, configured, Except.map]
    · exact .inr ⟨cause, .inr unset, refused⟩
  · rw [not_or] at unset
    obtain ⟨path, given⟩ := Option.ne_none_iff_exists'.1 unset.1
    refine .inl ⟨Path.ofText path, ?_⟩
    unfold chosenRoot
    rw [given]
    split
    · next empty => cases empty
    · next empty => exact absurd (given.trans empty) unset.2
    · next other _ same => cases same; rfl

theorem exec_resolvedRoot_cases (p : Path) (s : Session) :
    (∃ fault, s.world.files.resolve s.world.workingDirectory s.world.linkDepth p = .error fault ∧
      exec (resolvedRoot p) s = (.error (.system fault none), s)) ∨
    ∃ root, s.world.files.resolve s.world.workingDirectory s.world.linkDepth p = .ok root ∧
      (s.world.files.stat s.world.workingDirectory root = .error .tooManyLinks ∧
          exec (resolvedRoot p) s = (.error (.linkLoop root.text), s) ∨
        s.world.files.stat s.world.workingDirectory root = .error .embeddedNul ∧
          exec (resolvedRoot p) s = (.error (.system .embeddedNul none), s) ∨
        s.world.files.stat s.world.workingDirectory root ≠ .error .embeddedNul ∧
          exec (resolvedRoot p) s = (.ok root, s)) := by
  unfold resolvedRoot
  rw [exec_bind_of_ok (exec_world s)]
  cases resolved : s.world.files.resolve s.world.workingDirectory s.world.linkDepth p with
  | error fault => exact .inl ⟨fault, rfl, rfl⟩
  | ok root =>
    refine .inr ⟨root, rfl, ?_⟩
    dsimp only
    cases looked : s.world.files.stat s.world.workingDirectory root with
    | ok node => exact .inr (.inr ⟨by simp, rfl⟩)
    | error fault =>
      cases fault with
      | tooManyLinks => exact .inl ⟨rfl, rfl⟩
      | embeddedNul => exact .inr (.inl ⟨rfl, rfl⟩)
      | _ => exact .inr (.inr ⟨by simp, rfl⟩)

/-- For a root that can be looked at, the exports fail only in ways that are reported. -/
theorem exportRoot_reports (clock : now.wholePart = .ok second) (calm : Calm now s) {root : Path}
    (usable : s.world.files.stat s.world.workingDirectory root ≠ .error .embeddedNul)
    (failed : exec (exportRoot root) s = (.error failure, s')) : failure.isReported = true := by
  have noNul : root.text.toList.contains '\x00' = false := by
    cases nul : root.text.toList.contains '\x00' with
    | false => rfl
    | true => exact absurd (FileTree.stat_of_nul nul) usable
  have libNoNul : ((root.child "cluster").child "lib").text.toList.contains '\x00' = false := by
    rw [Path.contains_nul_child (by decide), Path.contains_nul_child (by decide), noNul]
  have quiet : Quiet (Calm now) fun failure => failure.isReported = true := Calm.quietOf clock
  have exports : Keeps (Calm now) (fun failure => failure.isReported = true) (exportRoot root) := by
    refine quiet.exportRoot (fun _ reported => reported) fun nul => ?_
    rw [libNoNul] at nul
    cases nul
  exact (exports s calm).2 failure (congrArg Prod.fst failed)

theorem escapes_of_env (clock : now.wholePart = .ok second) (calm : Calm now s)
    (failed : exec (execute .env settings) s = (.error failure, s'))
    (unreported : failure.isReported = false) : Escapes settings s .env failure := by
  rcases exec_chosenRoot_cases settings s with ⟨p, chosen⟩ | ⟨cause, needed, refused⟩
  · rw [execute, env_eq, exec_bind_of_ok chosen] at failed
    rcases exec_resolvedRoot_cases p s with ⟨fault, unresolved, stops⟩ | ⟨root, resolved, ⟨loops, stops⟩ |
      ⟨nul, stops⟩ | ⟨usable, goesOn⟩⟩
    · rw [exec_bind_of_error stops] at failed
      cases failed
      exact .unresolvedRoot chosen unresolved (by simpa [Failure.isReported] using unreported)
    · rw [exec_bind_of_error stops] at failed
      cases failed
      exact .loopingRoot chosen resolved loops
    · rw [exec_bind_of_error stops] at failed
      cases failed
      exact .unusableRoot chosen resolved nul
    · rw [exec_bind_of_ok goesOn] at failed
      have reported := exportRoot_reports clock calm usable failed
      rw [unreported] at reported
      cases reported
  · exact escapes_of_config needed refused failed unreported

theorem escapes_of_execute (clock : now.wholePart = .ok second)
    (timed : (now.scale 1000).wholePart = .ok millis) (calm : Calm now s)
    (failed : exec (execute command settings) s = (.error failure, s'))
    (unreported : failure.isReported = false) : Escapes settings s command failure := by
  cases command with
  | generateUuid => exact escapes_of_generateUuid clock calm failed unreported
  | recordUsage => exact escapes_of_recordUsage clock timed calm failed unreported
  | checkin => exact escapes_of_checkin clock calm failed unreported
  | env => exact escapes_of_env clock calm failed unreported

end Checkin.Tool

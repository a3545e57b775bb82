import Checkin.Proofs.Tool.Keeping
import Checkin.Proofs.Tool.Pipeline

/-!
# What goes to standard output

Standard output is for results: the wire form of a message, or the lines that export variables. A run prints
its result when it ends well, and nothing in any other case unless help is asked for; the commands that keep
the state files have no result to print.
-/

namespace Checkin.Tool

open Checkin.Action Checkin.CommandLine

variable {s s' : Session} {command : Command} {settings : Settings}

/-- What a command prints when it succeeds in a session in which the log is settled. A message is printed on
one line, with no character below U+0020 before the line feed. -/
inductive Prints (settings : Settings) (s : Session) : Command → String → Prop
  | generateUuid : Prints settings s .generateUuid ""
  | recordUsage : Prints settings s .recordUsage ""
  | checkin {m : Message} : (exec checkinMessage s).1 = .ok m → (∀ c ∈ m.wire.toList, 0x20 ≤ c.toNat) →
      Prints settings s .checkin (m.wire ++ "\n")
  | env {home root : Path} {exports : List (String × String)} :
      exec (chosenRoot settings.kijiHome) s = (.ok home, s) → exec (resolvedRoot home) s = (.ok root, s) →
      (exec (ShellEnvironment.compute root ((s.world.environment.get? "PATH").getD "")) s).1 =
        .ok exports →
      Prints settings s .env (ShellEnvironment.exportLines exports ++ "\n")

/-- What an action prints is a text of some kind if it succeeds, and nothing if it fails. -/
def PrintsIf (prints : String → Prop) (a : Action Unit) (s : Session) : Prop :=
  (∃ s' text, exec a s = (.ok (), s') ∧ s'.output = s.output ++ text ∧ prints text) ∨
    ∃ failure s', exec a s = (.error failure, s') ∧ s'.output = s.output

variable {prints : String → Prop}

/-- What keeps the output of a session adds an empty text to it. -/
theorem printsIf_of_keeps {a : Action Unit} (keeps : Keeps (Still s.output s.world.now) (fun _ => True) a)
    (empty : prints "") : PrintsIf prints a s := by
  have kept := (keeps s ⟨rfl, rfl⟩).1
  cases ran : exec a s with
  | mk result s' =>
    rw [ran] at kept
    cases result with
    | ok done => exact .inl ⟨s', "", ran, by rw [kept.output, String.append_empty], empty⟩
    | error failure => exact .inr ⟨failure, s', ran, kept.output⟩

/-- What is printed after steps that keep the output is the text that they give. -/
theorem printsIf_of_bind {α : Type} {a : Action α} {line : α → String}
    (keeps : Keeps (Still s.output s.world.now) (fun _ => True) a)
    (gives : ∀ x, (exec a s).1 = .ok x → prints (line x ++ "\n")) :
    PrintsIf prints (a >>= fun x => Action.print (line x)) s := by
  have kept := (keeps s ⟨rfl, rfl⟩).1
  cases ran : exec a s with
  | mk result s' =>
    rw [ran] at kept gives
    cases result with
    | ok x =>
      refine .inl ⟨_, line x ++ "\n", exec_bind_of_ok ran _, ?_, gives x rfl⟩
      show s'.output ++ line x ++ "\n" = _
      rw [kept.output, String.append_assoc]
    | error failure => exact .inr ⟨failure, s', exec_bind_of_error ran _, kept.output⟩

/-! ## Commands -/

theorem Still.detached {output : String} {now : Binary64} : Detached (Still output now) := by
  refine ⟨Still.quiet, ?_, ?_, ?_⟩
  · exact fun _ _ still => ⟨still.output, still.clock⟩
  · exact fun _ still => ⟨still.output, still.clock⟩
  · exact fun _ _ still => ⟨still.output, still.clock⟩

/-- The exports of a distribution, once it is logged which one it is. -/
def loggedExports (root : Path) (path : String) : Action (List (String × String)) := do
  let exports ← ShellEnvironment.compute root path
  Action.log .info logger ("Set KIJI_HOME=" ++ root.text)
  return exports

theorem exportRoot_eq (root : Path) :
    exportRoot root = (do
      let world ← Action.world
      let exports ← loggedExports root ((world.environment.get? "PATH").getD "")
      Action.print (ShellEnvironment.exportLines exports)) := by
  simp [exportRoot, loggedExports]

theorem compute_of_loggedExports {root : Path} {path : String} {exports : List (String × String)}
    (logged : (exec (loggedExports root path) s).1 = .ok exports) :
    (exec (ShellEnvironment.compute root path) s).1 = .ok exports := by
  unfold loggedExports at logged
  cases computed : exec (ShellEnvironment.compute root path) s with
  | mk result s' =>
    cases result with
    | error failure =>
      rw [exec_bind_of_error computed] at logged
      cases logged
    | ok found =>
      rw [exec_bind_of_ok computed, exec_bind] at logged
      split at logged
      · cases logged
        rfl
      · cases logged

theorem Still.loggedExports {output : String} {now : Binary64} (root : Path) (path : String) :
    Keeps (Still output now) (fun _ => True) (loggedExports root path) :=
  (Still.quiet.compute (fun _ _ => trivial) (fun _ _ => trivial) path).bind fun _ =>
    (Still.quiet.log (by decide) _ _).bind fun _ => keeps_pure _

/-- A command prints its result if it succeeds, and nothing if it fails. -/
theorem printsIf_execute (command : Command) (settings : Settings) (s : Session) :
    PrintsIf (Prints settings s command) (execute command settings) s := by
  cases command with
  | generateUuid =>
    have keeps : Keeps (Still s.output s.world.now) (fun _ => True) (execute .generateUuid settings) :=
      Still.detached.config.bind fun cfg => (Still.detached.generateId cfg).map _
    exact printsIf_of_keeps keeps .generateUuid
  | recordUsage =>
    have keeps : Keeps (Still s.output s.world.now) (fun _ => True) (execute .recordUsage settings) :=
      Still.detached.config.bind fun cfg => (Still.detached.recordUse cfg).map _
    exact printsIf_of_keeps keeps .recordUsage
  | checkin =>
    rw [execute, checkin_eq]
    exact printsIf_of_bind Still.quiet.checkinMessage fun m made =>
      .checkin made fun c => Message.le_toNat_of_mem_wire
  | env =>
    rcases exec_chosenRoot_cases settings s with ⟨home, chosen⟩ | ⟨cause, needed, refused⟩
    · have resolves : ∃ result, exec (resolvedRoot home) s = (result, s) := by
        rcases exec_resolvedRoot_cases home s with ⟨fault, -, stops⟩ | ⟨root, -, ⟨-, stops⟩ |
          ⟨-, stops⟩ | ⟨-, goesOn⟩⟩
        · exact ⟨_, stops⟩
        · exact ⟨_, stops⟩
        · exact ⟨_, stops⟩
        · exact ⟨_, goesOn⟩
      obtain ⟨result, resolved⟩ := resolves
      unfold PrintsIf
      rw [execute, env_eq, exec_bind_of_ok chosen]
      cases result with
      | error failure =>
        rw [exec_bind_of_error resolved]
        exact .inr ⟨failure, s, rfl, rfl⟩
      | ok root =>
        rw [exec_bind_of_ok resolved, exportRoot_eq, exec_bind_of_ok (exec_world s)]
        exact printsIf_of_bind (Still.loggedExports root _) fun exports logged =>
          .env chosen resolved (compute_of_loggedExports logged)
    · exact .inr ⟨cause, s, exec_execute_of_config needed refused, rfl⟩

/-! ## Whole runs -/

/-- A run that ends well settled its log and printed the result of its command; one that does not end well
printed nothing. -/
theorem output_of_runCommand (command : Command) (settings : Settings) (s : Session) :
    (∃ settled text, exec (settleLog settings) s = (.ok (), settled) ∧
      (exec (runCommand command settings) s).1 = .ok 0 ∧
      (exec (runCommand command settings) s).2.output = s.output ++ text ∧
      Prints settings settled command text) ∨
    (exec (runCommand command settings) s).1 ≠ .ok 0 ∧
      (exec (runCommand command settings) s).2.output = s.output := by
  have reports {failure : Failure} {s' : Session}
      (failed : exec (attempt command settings) s = (.error failure, s')) (silent : s'.output = s.output) :
      (exec (runCommand command settings) s).1 ≠ .ok 0 ∧
        (exec (runCommand command settings) s).2.output = s.output := by
    constructor
    · intro ended
      rw [exec_attempt_of_runCommand (Prod.ext ended rfl)] at failed
      cases failed
    · refine @exec_runCommand_keeps (fun s' => s'.output = s.output) s command settings ?_ ?_
      · rw [failed]
        exact silent
      · intro s message same
        rw [Session.write_output, same]
  have silent := (Still.detached.settleLog settings s ⟨rfl, rfl⟩).1
  cases settles : exec (settleLog settings) s with
  | mk result settled =>
    rw [settles] at silent
    cases result with
    | error failure =>
      exact .inr (reports (by rw [attempt, exec_bind_of_error settles]) silent.output)
    | ok done =>
      have tried : exec (attempt command settings) s = exec (execute command settings) settled := by
        rw [attempt, exec_bind_of_ok settles]
      rcases printsIf_execute command settings settled with
        ⟨s', text, ran, printed, prints⟩ | ⟨failure, s', failed, unprinted⟩
      · rw [exec_runCommand_of_ok (tried.trans ran)]
        exact .inl ⟨settled, text, rfl, rfl, by rw [printed, silent.output], prints⟩
      · exact .inr (reports (tried.trans failed) (by rw [unprinted, silent.output]))

/-- A run that is not asked for help prints nothing unless it ends with exit code 0. Then it ran a command,
and all that it printed is the result of this command. -/
theorem run_output {args : List String} (noHelp : ∀ scope, parse args ≠ .help scope)
    (program : Option Path) (w : World) :
    (((run program args).run (.start w .unsettled)).1 ≠ .exit 0 →
      ((run program args).run (.start w .unsettled)).2.output = "") ∧
    (((run program args).run (.start w .unsettled)).1 = .exit 0 →
      ∃ command settings s settled, parse args = .run command settings ∧
        exec (prepare program) (.start w .unsettled) = (.ok (), s) ∧
        exec (settleLog settings) s = (.ok (), settled) ∧
        Prints settings settled command ((run program args).run (.start w .unsettled)).2.output) := by
  obtain ⟨result, s, prepared, -, silent, ⟨failure, -, ran⟩ | ⟨rfl, ran⟩⟩ := run_cases program args w
  · rw [ran]
    exact ⟨fun _ => silent, fun ended => by cases ended⟩
  · rw [ran]
    simp only [ne_eq, endingOf_eq_exit_iff]
    cases asks : parse args with
    | help scope => exact absurd asks (noHelp scope)
    | reject scope rejection =>
      rw [exec_respond_of_reject asks]
      exact ⟨fun _ => silent, fun ended => by cases ended⟩
    | run command settings =>
      rw [exec_respond_of_run asks]
      rcases output_of_runCommand command settings s with
        ⟨settled, text, settles, ended, printed, prints⟩ | ⟨ended, unprinted⟩
      · refine ⟨fun other => absurd ended other, fun _ =>
          ⟨command, settings, s, settled, rfl, prepared, settles, ?_⟩⟩
        show Prints settings settled command (exec (runCommand command settings) s).2.output
        rw [printed, silent, String.empty_append]
        exact prints
      · exact ⟨fun _ => unprinted.trans silent, fun ended' => absurd ended' ended⟩

/-- A check-in in the ready world prints its message. -/
theorem run_output_readyWorld :
    ∃ settled m, (exec checkinMessage settled).1 = .ok m ∧
      ((run none ["checkin"]).run (.start readyWorld .unsettled)).2.output = m.wire ++ "\n" := by
  have asks : parse ["checkin"] = .run .checkin .default := by cbv
  have ended : ((run none ["checkin"]).run (.start readyWorld .unsettled)).1 = .exit 0 := by
    rw [run_none_eq, endingOf_eq_exit_iff]
    exact (exec_respond_checkin_of_ready asks (.inl rfl) (fun verbose => by cases verbose)
      ready_readyWorld).1
  have noHelp : ∀ scope, parse ["checkin"] ≠ .help scope := by
    rw [asks]
    intro scope asked
    cases asked
  obtain ⟨command, settings, s, settled, asked, -, -, prints⟩ := (run_output noHelp none readyWorld).2 ended
  cases asks.symm.trans asked
  generalize ((run none ["checkin"]).run (.start readyWorld .unsettled)).2.output = output at prints
  cases prints with
  | checkin made => exact ⟨settled, _, made, rfl⟩

end Checkin.Tool

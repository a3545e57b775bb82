import Checkin.Proofs.Tool.Likeness

/-!
# Variables that a run depends on

A run goes the same way in two environments that give the variables it looks at the same values, whatever was
said before (`Alike`).
-/

namespace Checkin

/-- An environment to run in, and what was said before. -/
structure Setting where
  environment : Environment
  journal : List Record
  errors : String

/-- A session with the environment of a setting, after what was said there. -/
def Session.within (s : Session) (c : Setting) : Session :=
  { s with
    world := { s.world with environment := c.environment }
    journal := c.journal ++ s.journal
    errors := c.errors ++ s.errors }

/-- A session and the same one in a setting, whose environment gives the known variables the same values. -/
inductive Alike (c : Setting) (known : String → Prop) : Session → Session → Prop
  | intro (s : Session) :
      (∀ name, known name → c.environment.get? name = s.world.environment.get? name) →
      Alike c known (s.within c) s

open Checkin.Action

variable {c : Setting} {known : String → Prop} {α : Type}

theorem Alike.eq_within {s s' : Session} (alike : Alike c known s s') : s = s'.within c := by
  obtain ⟨s, -⟩ := alike
  rfl

theorem Session.write_within (s : Session) (r : Record) : (s.within c).write r = (s.write r).within c := by
  obtain ⟨world, sink, journal, output, errors⟩ := s
  cases sink <;> simp [Session.write, Session.within, List.append_assoc, String.append_assoc]

theorem Alike.write {s s' : Session} (alike : Alike c known s s') (r : Record) :
    Alike c known (s.write r) (s'.write r) := by
  obtain ⟨s, same⟩ := alike
  rw [Session.write_within]
  refine .intro _ ?_
  rw [Session.write_world]
  exact same

/-! ## Steps -/

/-- What is done with the world agrees if it does with the environment of the setting in it. -/
theorem alike_world_bind {f : World → Action α}
    (next : ∀ world, (∀ name, known name → c.environment.get? name = world.environment.get? name) →
      Agrees (Alike c known) (f { world with environment := c.environment }) (f world)) :
    Agrees (Alike c known) (world >>= f) (world >>= f) := by
  apply agrees_world_bind
  rintro _ s ⟨_, same⟩
  exact next s.world same

theorem alike_modify {f : Session → Session} (commutes : ∀ s, f (s.within c) = (f s).within c)
    (keeps : ∀ s, (f s).world.environment = s.world.environment) :
    Agrees (Alike c known) (modify f) (modify f) := by
  apply agrees_modify
  rintro _ s ⟨_, same⟩
  rw [commutes]
  exact .intro _ (by rwa [keeps])

theorem alike_setFiles (files : FileTree) : Agrees (Alike c known) (setFiles files) (setFiles files) :=
  alike_modify (fun _ => rfl) (fun _ => rfl)

theorem alike_print (line : String) : Agrees (Alike c known) (print line) (print line) :=
  alike_modify (fun _ => rfl) (fun _ => rfl)

theorem alike_draw : Agrees (Alike c known) draw draw := by
  rintro _ s ⟨_, same⟩
  rw [exec_draw, exec_draw]
  exact ⟨rfl, .intro s.drawn same⟩

theorem alike_log (level : Level) (logger message : String) :
    Agrees (Alike c known) (Action.log level logger message) (Action.log level logger message) := by
  refine agrees_logComposed ?_ ?_ (fun _ _ r alike => alike.write r) logger (.ok message)
  · rintro _ s ⟨_, -⟩
    rfl
  · rintro _ s ⟨_, -⟩
    rfl

theorem alike_likeness : Likeness known (Alike c known) where
  environment := by
    rintro _ s ⟨_, same⟩
    exact same
  workingDirectory := by
    rintro _ s ⟨_, -⟩
    rfl
  accounts := by
    rintro _ s ⟨_, -⟩
    rfl
  clock := by
    rintro _ s ⟨_, -⟩
    rfl
  platform := by
    rintro _ s ⟨_, -⟩
    rfl
  packageVersion := by
    rintro _ s ⟨_, -⟩
    rfl
  log := alike_log
  print := alike_print

/-! ## Files -/

theorem alike_tends (p : Path) : Tends (Alike c known) (Alike c known) p where
  present := by
    rintro _ s ⟨_, -⟩
    rfl
  text := by
    rintro _ s ⟨_, -⟩
    rfl
  draws := alike_draw
  writes := by
    rintro value _ s ⟨_, same⟩
    rw [Store.exec_writeValue, Store.exec_writeValue]
    exact ⟨rfl, .intro (s.withFiles
      (Store.written s.world.files s.world.workingDirectory s.world.depth p value).2) same⟩

theorem alike_explores : Explores (Alike c known) := by
  apply explores_of_looks
  · rintro _ s ⟨_, -⟩ p
    rfl
  · rintro _ s ⟨_, -⟩ lib stem
    rfl

/-! ## Runs -/

namespace Tool

open CommandLine

theorem alike_settleLog (settings : Settings) :
    Agrees (Alike c known) (settleLog settings) (settleLog settings) := by
  have sinks (sink : Sink) :
      Agrees (Alike c known) (modify fun s => { s with sink }) (modify fun s => { s with sink }) :=
    alike_modify (fun _ => rfl) (fun _ => rfl)
  by_cases unnamed : settings.logFile = none ∨ settings.logFile = some ""
  · unfold settleLog
    rcases unnamed with unnamed | unnamed <;> rw [unnamed] <;> exact sinks _
  · obtain ⟨file, named, notEmpty⟩ := exists_logFile unnamed
    rw [settleLog_of_named named notEmpty]
    apply alike_world_bind
    intro world _
    apply (agrees_ofExcept _).bind
    intro p
    apply (agrees_onPath p _).bind
    rintro ⟨location, files⟩
    exact (alike_setFiles _).bind fun _ => sinks _

theorem alike_runCommand {command : Command} {settings : Settings}
    (consults : Consults known command settings) :
    Agrees (Alike c known) (runCommand command settings) (runCommand command settings) := by
  have executes : Agrees (Alike c known) (execute command settings) (execute command settings) :=
    alike_likeness.execute alike_likeness consults rfl (fun _ => alike_explores)
      (fun _ _ cfg _ _ => ⟨alike_tends cfg.idFile, alike_tends cfg.lastUsedFile⟩) fun _ _ => id
  rw [runCommand_eq_reporting]
  exact carries_reporting alike_log command ((alike_settleLog settings).bind fun _ => executes)

/-- A run depends on no variables but those that its command does. -/
theorem alike_respond {args : List String}
    (consults : ∀ command settings, parse args = .run command settings → Consults known command settings) :
    Agrees (Alike c known) (respond args) (respond args) := by
  unfold respond
  split
  · refine Agrees.bind ?_ fun _ => agrees_pure _
    exact alike_modify (fun _ => rfl) (fun _ => rfl)
  · refine Agrees.bind ?_ fun _ => agrees_pure _
    refine alike_modify (fun s => ?_) (fun _ => rfl)
    simp only [Session.within, String.append_assoc]
  · next command settings asks => exact alike_runCommand (consults command settings asks)

end Tool

end Checkin

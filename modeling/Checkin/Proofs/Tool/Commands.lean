import Checkin.Proofs.Action
import Checkin.Proofs.FileTree.Faults
import Checkin.Tool

/-!
# Runs of the tool

A run settles the log and executes a command (`attempt`); if that fails, it may report the failure. The
steps before the command are taken apart here, and so are the two commands that change no files, as far as
what they leave alone and how they fail goes.
-/

namespace Checkin.Tool

open Checkin.Action Checkin.CommandLine

variable {s s' : Session} {property : Session → Prop} {failing : Failure → Prop}

/-! ## Configuration and log -/

theorem exec_config (s : Session) :
    exec config s =
      (Config.load s.world.environment s.world.homes s.world.workingDirectory, s) := by
  unfold config
  rw [exec_bind_of_ok (exec_world s), exec_ofExcept]

theorem exec_config_cases (s : Session) :
    (∃ cfg, exec config s = (.ok cfg, s)) ∨ ∃ failure, exec config s = (.error failure, s) := by
  rw [exec_config]
  cases Config.load s.world.environment s.world.homes s.world.workingDirectory with
  | ok cfg => exact .inl ⟨cfg, rfl⟩
  | error failure => exact .inr ⟨failure, rfl⟩

/-- The level from which on a run's log shows records. -/
def threshold (settings : Settings) : Level :=
  if settings.verbose then .debug else .info

theorem exec_settleLog_of_unnamed {settings : Settings}
    (unnamed : settings.logFile = none ∨ settings.logFile = some "") (s : Session) :
    exec (settleLog settings) s = (.ok (), { s with sink := .standardError (threshold settings) }) := by
  unfold settleLog threshold
  rcases unnamed with unnamed | unnamed <;> rw [unnamed] <;> cases settings.verbose <;> rfl

theorem settleLog_of_named {settings : Settings} {file : String} (named : settings.logFile = some file)
    (notEmpty : file ≠ "") :
    settleLog settings = (do
      let world ← Action.world
      let p ← Action.ofExcept (logPath world.workingDirectory file)
      let (location, files) ← Action.onPath p (world.files.openFile world.workingDirectory p)
      Action.setFiles files
      modify fun s => { s with sink := .file (threshold settings) location }) := by
  obtain ⟨logFile, verbose, kijiHome⟩ := settings
  subst named
  unfold settleLog
  cases verbose <;> simp only <;> split <;> simp_all [threshold]

theorem exec_settleLog_of_named {settings : Settings} {file : String}
    (named : settings.logFile = some file) (notEmpty : file ≠ "") (s : Session) :
    exec (settleLog settings) s =
      match logPath s.world.workingDirectory file with
      | .error failure => (.error failure, s)
      | .ok p =>
        match s.world.files.openFile s.world.workingDirectory p with
        | .error fault => (.error (.system fault (some p.text)), s)
        | .ok (location, files) =>
          (.ok (), { s.withFiles files with sink := .file (threshold settings) location }) := by
  rw [settleLog_of_named named notEmpty, exec_bind_of_ok (exec_world s), exec_bind, exec_ofExcept]
  cases logPath s.world.workingDirectory file with
  | error failure => rfl
  | ok p =>
    simp only [exec_bind, exec_onPath]
    cases s.world.files.openFile s.world.workingDirectory p <;> rfl

theorem exists_logFile {settings : Settings}
    (named : ¬(settings.logFile = none ∨ settings.logFile = some "")) :
    ∃ file, settings.logFile = some file ∧ file ≠ "" := by
  rw [not_or] at named
  obtain ⟨file, given⟩ := Option.ne_none_iff_exists'.1 named.1
  refine ⟨file, given, ?_⟩
  rintro rfl
  exact named.2 given

/-- The settled log goes to standard error, or to a file that was opened for it. -/
theorem exec_settleLog_of_ok {settings : Settings} (settled : exec (settleLog settings) s = (.ok (), s')) :
    s' = { s with sink := .standardError (threshold settings) } ∨
    ∃ p location files,
      s.world.files.openFile s.world.workingDirectory p = .ok (location, files) ∧
      s' = { s.withFiles files with sink := .file (threshold settings) location } := by
  by_cases unnamed : settings.logFile = none ∨ settings.logFile = some ""
  · rw [exec_settleLog_of_unnamed unnamed] at settled
    cases settled
    exact .inl rfl
  · obtain ⟨file, named, notEmpty⟩ := exists_logFile unnamed
    rw [exec_settleLog_of_named named notEmpty] at settled
    split at settled
    · cases settled
    · next p _ =>
      split at settled
      · cases settled
      · next location files opened =>
        cases settled
        exact .inr ⟨p, location, files, opened, rfl⟩

theorem exec_settleLog_of_error {settings : Settings} {failure : Failure}
    (failed : exec (settleLog settings) s = (.error failure, s')) : s' = s := by
  by_cases unnamed : settings.logFile = none ∨ settings.logFile = some ""
  · rw [exec_settleLog_of_unnamed unnamed] at failed
    cases failed
  · obtain ⟨file, named, notEmpty⟩ := exists_logFile unnamed
    rw [exec_settleLog_of_named named notEmpty] at failed
    split at failed
    · cases failed; rfl
    · split at failed
      · cases failed; rfl
      · cases failed

/-! ## The run around a command -/

/-- What a run tries: to settle the log and to execute a command. -/
def attempt (command : Command) (settings : Settings) : Action Unit := do
  settleLog settings
  execute command settings

/-- The line that a run puts into the log when its command failed. -/
def failureLine (command : Command) (failure : Failure) : String :=
  command.name ++ " failed: " ++ failure.text

theorem runCommand_eq (command : Command) (settings : Settings) :
    runCommand command settings =
      tryCatch (do attempt command settings; return 0) fun failure => do
        unless failure.isReported do throw failure
        Action.log .error logger (failureLine command failure)
        return 1 := by
  simp [runCommand, attempt, failureLine]

theorem exec_runCommand_of_ok {command : Command} {settings : Settings}
    (succeeded : exec (attempt command settings) s = (.ok (), s')) :
    exec (runCommand command settings) s = (.ok 0, s') := by
  rw [runCommand_eq, exec_tryCatch, exec_bind_of_ok succeeded, exec_pure]

theorem exec_runCommand_of_error {command : Command} {settings : Settings} {failure : Failure}
    (failed : exec (attempt command settings) s = (.error failure, s')) :
    exec (runCommand command settings) s =
      if failure.isReported then
        match exec (Action.log .error logger (failureLine command failure)) s' with
        | (.ok (), s'') => (.ok 1, s'')
        | (.error failure, s'') => (.error failure, s'')
      else (.error failure, s') := by
  rw [runCommand_eq, exec_tryCatch, exec_bind_of_error failed]
  cases reported : failure.isReported with
  | false => simp [reported]
  | true =>
    simp only [reported, if_true, exec_bind, exec_pure]
    split <;> simp_all

/-- A run that ends well did what it tried. -/
theorem exec_attempt_of_runCommand {command : Command} {settings : Settings}
    (ended : exec (runCommand command settings) s = (.ok 0, s')) :
    exec (attempt command settings) s = (.ok (), s') := by
  cases tried : exec (attempt command settings) s with
  | mk result after =>
    cases result with
    | ok done =>
      rw [exec_runCommand_of_ok tried] at ended
      cases ended
      rfl
    | error failure =>
      rw [exec_runCommand_of_error tried] at ended
      split at ended
      · split at ended <;> cases ended
      · cases ended

theorem exec_respond_of_run {args : List String} {command : Command} {settings : Settings}
    (asks : parse args = .run command settings) (s : Session) :
    exec (respond args) s = exec (runCommand command settings) s := by
  unfold respond
  rw [asks]

theorem exec_respond_of_help {args : List String} {scope : Scope} (asks : parse args = .help scope)
    (s : Session) :
    exec (respond args) s = (.ok 0, { s with output := s.output ++ scope.help }) := by
  unfold respond
  rw [asks]
  rfl

theorem exec_respond_of_reject {args : List String} {scope : Scope} {r : Rejection}
    (asks : parse args = .reject scope r) (s : Session) :
    exec (respond args) s = (.ok 2, { s with errors := s.errors ++ scope.refusal r }) := by
  unfold respond
  rw [asks]
  rfl

/-- How a run ends by what its steps gave. -/
def endingOf : Except Failure Nat → Ending
  | .ok code => .exit code
  | .error failure => .escape failure

/-- The session after a run, in which nothing is left that held for the run only. -/
def closing (environment : Environment) (s : Session) : Session :=
  { s with sink := .unsettled, world := { s.world with environment } }

/-- What a run does before it looks at its arguments: it loads the environment file near its program. -/
def prepare (program : Option Path) : Action Unit :=
  program.forM fun p => do loadEnvironmentFile (← openProgram p)

theorem exec_start (program : Option Path) (args : List String) (s : Session) :
    exec (start program args) s = exec (do prepare program; respond args) s :=
  rfl

theorem run_eq (program : Option Path) (args : List String) (s : Session) :
    (run program args).run s =
      (endingOf (exec (start program args) s).1,
        closing s.world.environment (exec (start program args) s).2) := by
  have started : (start program args).run.run s = exec (start program args) s := rfl
  unfold run
  simp only [StateT.run_bind, StateT.run_get, pure_bind, started]
  cases exec (start program args) s with
  | mk result s' => cases result <;> rfl

theorem run_none_eq (args : List String) (s : Session) :
    (run none args).run s =
      (endingOf (exec (respond args) s).1,
        closing s.world.environment (exec (respond args) s).2) := by
  have started : exec (start none args) s = exec (respond args) s := by
    rw [exec_start, exec_bind]
    rfl
  rw [run_eq, started]

/-! ## Commands that write no files -/

/-- A property that log records below an error do not take away, with failures among which a clock without a
time is counted. -/
structure LogQuiet (property : Session → Prop) (failing : Failure → Prop) : Prop where
  write : ∀ s r, r.level ≠ .error → property s → property (s.write r)
  clock : ∀ s failure, property s → s.world.now.wholePart = .error failure → failing failure

/-- A property that output does not take away either. -/
structure Quiet (property : Session → Prop) (failing : Failure → Prop) : Prop
    extends LogQuiet property failing where
  print : ∀ s output, property s → property { s with output }

theorem LogQuiet.log (quiet : LogQuiet property failing) {level : Level} (minor : level ≠ .error)
    (logger message : String) : Keeps property failing (Action.log level logger message) :=
  keeps_logComposed (fun s _ holds => quiet.write s _ minor holds) quiet.clock (fun _ failed => by cases failed)

theorem Quiet.prints (quiet : Quiet property failing) (line : String) :
    Keeps property failing (Action.print line) :=
  keeps_modify fun s holds => quiet.print s _ holds

/-- What log records leave alone is left by the loading of an environment file, if variables have no part in
it. -/
theorem LogQuiet.prepare (quiet : LogQuiet property fun _ => True)
    (free : ∀ s environment, property s → property { s with world := { s.world with environment } })
    (program : Option Path) : Keeps property (fun _ => True) (prepare program) := by
  have computes {α : Type} (result : Except Failure α) :
      Keeps property (fun _ => True) (Action.ofExcept result) := keeps_ofExcept fun _ _ => trivial
  have opens (p : Path) : Keeps property (fun _ => True) (openProgram p) := by
    apply keeps_world.bind
    intro world
    exact ((keeps_onPath fun _ _ => trivial).map _).bind fun _ => keeps_pure _
  have loads (l : Location) : Keeps property (fun _ => True) (loadEnvironmentFile l) := by
    apply keeps_world.bind
    intro world
    dsimp only
    split
    · exact keeps_pure _
    · split
      · exact keeps_pure _
      · apply (computes _).bind
        intro text
        apply (Keeps.forM (fun _ => quiet.log (by decide) _ _) _).bind
        intro warned
        apply (computes _).bind
        intro environment
        exact keeps_modify fun s holds => free s environment holds
  cases program with
  | none => exact keeps_pure _
  | some p => exact (opens p).bind loads

/-- Says about an id whether it is new. -/
def reportId (cfg : Config) (answer : String × Bool) : Action String := do
  if answer.2 then
    Action.log .info Usage.idLogger ("Wrote new installation id to " ++ cfg.idFile.text)
  else
    Action.log .debug Usage.idLogger ("Installation id already present in " ++ cfg.idFile.text)
  return answer.1

theorem generateId_eq (cfg : Config) :
    Usage.generateId cfg = Store.writeIdIfAbsent cfg.idFile >>= reportId cfg := rfl

theorem LogQuiet.reportId (quiet : LogQuiet property failing) (cfg : Config) (answer : String × Bool) :
    Keeps property failing (reportId cfg answer) := by
  unfold Tool.reportId
  split <;> exact (quiet.log (by decide) _ _).bind fun _ => keeps_pure _

/-- Says which time of last use was recorded. -/
def reportUse (cfg : Config) (written : Value) : Action Value := do
  Action.logComposed .debug Usage.timestampLogger ((Usage.wholeMillis written).map fun n =>
    "Recorded last use " ++ Text.numeral n ++ " in " ++ cfg.lastUsedFile.text)
  return written

theorem recordUse_eq (cfg : Config) (millis : Value) :
    Usage.recordUse cfg millis = Store.writeLastUsed cfg.lastUsedFile millis >>= reportUse cfg := rfl

theorem LogQuiet.reportUse (quiet : LogQuiet property failing) (cfg : Config) {written : Value}
    (fails : ∀ failure, Usage.wholeMillis written = .error failure → failing failure) :
    Keeps property failing (reportUse cfg written) := by
  have minor : Level.debug ≠ .error := by decide
  refine (keeps_logComposed (fun s _ holds => quiet.write s _ minor holds) quiet.clock ?_).bind
    fun _ => keeps_pure _
  intro failure failed
  cases whole : Usage.wholeMillis written with
  | ok n => simp [whole, Except.map] at failed
  | error cause =>
    simp only [whole, Except.map, Except.error.injEq] at failed
    exact failed ▸ fails cause whole

/-- A property of the live platform is a text that is not empty, or it is reported to be missing. -/
theorem get_live_cases (platform : Platform) (key : String) :
    (∃ text, Properties.live.get platform key = .ok (.text text)) ∨
      Properties.live.get platform key = .error (.noProperty key) := by
  unfold Properties.get
  cases platform.properties.lookup key with
  | none => exact .inr rfl
  | some text =>
    simp only [Option.map_some]
    split
    · exact .inr rfl
    · exact .inl ⟨text, rfl⟩

theorem isReported_of_operatingSystem {platform : Platform} {failure : Failure}
    (failed : Properties.live.operatingSystem platform = .error failure) :
    failure.isReported = true := by
  unfold Properties.operatingSystem at failed
  rcases get_live_cases platform osName with ⟨name, named⟩ | missing
  · rcases get_live_cases platform osVersion with ⟨version, versioned⟩ | missing
    · rcases get_live_cases platform osArch with ⟨arch, built⟩ | missing
      · simp only [named, versioned, built] at failed
        cases failed
      · simp only [named, versioned, missing] at failed
        cases failed
        rfl
    · simp only [named, missing] at failed
      cases failed
      rfl
  · simp only [missing] at failed
    cases failed
    rfl

theorem isReported_of_runtimeVersion {platform : Platform} {failure : Failure}
    (failed : Properties.live.runtimeVersion platform = .error failure) :
    failure.isReported = true := by
  unfold Properties.runtimeVersion at failed
  rcases get_live_cases platform javaVersion with ⟨version, versioned⟩ | missing
  · rw [versioned] at failed
    cases failed
  · rw [missing] at failed
    cases failed
    rfl

theorem isReported_of_supplied {b : Builder} {failure : Failure} (failed : b.supplied = .error failure) :
    failure.isReported = true := by
  unfold Builder.supplied at failed
  split at failed
  · cases failed; rfl
  · split at failed
    · cases failed; rfl
    · cases failed

theorem isReported_of_assemble {operatingSystem : String} {bentoVersion runtime millis id : Value}
    {failure : Failure}
    (failed : Builder.assemble operatingSystem bentoVersion runtime millis id = .error failure) :
    failure.isReported = true := by
  simp only [Builder.assemble] at failed
  generalize Message.ofArguments _ = result at failed
  cases result with
  | ok message => cases failed
  | error report => cases failed; rfl

theorem LogQuiet.currentVersion (quiet : LogQuiet property failing)
    (reported : ∀ failure, failure.isReported = true → failing failure) :
    Keeps property failing Version.current := by
  apply keeps_world.bind
  intro world
  split
  · exact keeps_pure _
  · split
    · exact keeps_throw (reported _ rfl)
    · exact keeps_throw (reported _ rfl)
    · exact (quiet.log (by decide) _ _).bind fun _ => keeps_pure _

/-- Building a message from what the platform tells fails only in ways that are reported. -/
theorem LogQuiet.build (quiet : LogQuiet property failing)
    (reported : ∀ failure, failure.isReported = true → failing failure) (b : Builder) :
    Keeps property failing (b.build .live .current) := by
  refine (keeps_ofExcept fun _ failed => reported _ (isReported_of_supplied failed)).bind ?_
  rintro ⟨id, millis⟩
  apply keeps_world.bind
  intro world
  apply (keeps_ofExcept fun _ failed => reported _ (isReported_of_operatingSystem failed)).bind
  intro operatingSystem
  apply ((quiet.currentVersion reported).map Value.text).bind
  intro bentoVersion
  apply (keeps_ofExcept fun _ failed => reported _ (isReported_of_runtimeVersion failed)).bind
  intro runtime
  exact keeps_ofExcept fun _ failed => reported _ (isReported_of_assemble failed)

/-- Looking for a distribution under a path that may be used fails only in ways that are reported. -/
theorem LogQuiet.requireDistribution (quiet : LogQuiet property failing)
    (reported : ∀ failure, failure.isReported = true → failing failure) {lib : Path}
    (usable : lib.text.toList.contains '\x00' = true → ∀ failure, failing failure) (stem : String) :
    Keeps property failing (ShellEnvironment.requireDistribution lib stem) := by
  have looks : ∀ (world : World) (p : Path), Keeps property failing
      (Action.onPath p (world.files.isDirectory world.workingDirectory p)) := by
    intro world p
    refine keeps_onPath fun fault failed => reported _ ?_
    rw [FileTree.isDirectory_fault failed]
    rfl
  have lists : Keeps property failing (ShellEnvironment.directoriesWithStem lib stem) := by
    apply keeps_world.bind
    intro world
    refine (keeps_onPath fun fault failed => ?_).bind fun place => Keeps.filterM (fun _ => looks world _) _
    cases nul : lib.text.toList.contains '\x00' with
    | true => exact usable nul _
    | false => exact reported _ (FileTree.number?_isSome_of_find nul failed)
  have finds : Keeps property failing (ShellEnvironment.findDistribution lib stem) := by
    apply keeps_world.bind
    intro world
    apply (looks world lib).bind
    intro found
    cases found with
    | false => exact keeps_pure _
    | true => exact lists.bind fun _ => keeps_pure _
  apply finds.bind
  intro home
  cases home with
  | some home => exact keeps_pure _
  | none => exact (quiet.log (by decide) _ _).bind fun _ => keeps_pure _

theorem LogQuiet.compute (quiet : LogQuiet property failing)
    (reported : ∀ failure, failure.isReported = true → failing failure) {root : Path}
    (usable : ((root.child "cluster").child "lib").text.toList.contains '\x00' = true →
      ∀ failure, failing failure) (path : String) :
    Keeps property failing (ShellEnvironment.compute root path) :=
  (quiet.requireDistribution reported usable _).bind fun _ =>
    (quiet.requireDistribution reported usable _).bind fun _ => keeps_pure _

/-- The message that `checkin` prints. -/
def checkinMessage : Action Message := do
  let cfg ← config
  let world ← Action.world
  let id ← Action.ofExcept (Store.readId world.files world.workingDirectory cfg.idFile)
  let lastUsed ← Action.ofExcept (Store.readLastUsed world.files world.workingDirectory cfg.lastUsedFile)
  ((Builder.new.withId (.text id)).withLastUsedMillis (.int lastUsed)).build .live .current

theorem checkin_eq : checkin = (do Action.print (← checkinMessage).wire) := by
  simp [checkin, checkinMessage]

theorem LogQuiet.checkinMessage (quiet : LogQuiet property fun _ => True) :
    Keeps property (fun _ => True) checkinMessage := by
  have free {α : Type} (result : Except Failure α) :
      Keeps property (fun _ => True) (Action.ofExcept result) := keeps_ofExcept fun _ _ => trivial
  apply (keeps_world.bind fun _ => free _).bind
  intro cfg
  apply keeps_world.bind
  intro world
  apply (free _).bind
  intro id
  apply (free _).bind
  intro lastUsed
  exact quiet.build (fun _ _ => trivial) _

theorem Quiet.checkin (quiet : Quiet property fun _ => True) : Keeps property (fun _ => True) checkin := by
  rw [checkin_eq]
  exact quiet.checkinMessage.bind fun message => quiet.prints _

/-- The root that `env` is about, before links are resolved. -/
def chosenRoot (kijiHome : Option String) : Action Path :=
  match kijiHome with
  | none | some "" => Config.kijiHome <$> config
  | some path => pure (Path.ofText path)

/-- Prints the lines that export the variables of a distribution. -/
def exportRoot (root : Path) : Action Unit := do
  let path := ((← Action.world).environment.get? "PATH").getD ""
  let exports ← ShellEnvironment.compute root path
  Action.log .info logger ("Set KIJI_HOME=" ++ root.text)
  Action.print (ShellEnvironment.exportLines exports)

theorem env_eq (kijiHome : Option String) :
    env kijiHome = (do exportRoot (← resolvedRoot (← chosenRoot kijiHome))) := by
  unfold env chosenRoot
  split <;> simp [exportRoot]

theorem Quiet.exportRoot (quiet : Quiet property failing)
    (reported : ∀ failure, failure.isReported = true → failing failure) {root : Path}
    (usable : ((root.child "cluster").child "lib").text.toList.contains '\x00' = true →
      ∀ failure, failing failure) :
    Keeps property failing (exportRoot root) := by
  apply keeps_world.bind
  intro world
  apply (quiet.compute reported usable _).bind
  intro exports
  exact (quiet.log (by decide) _ _).bind fun _ => quiet.prints _

theorem Quiet.env (quiet : Quiet property fun _ => True) (kijiHome : Option String) :
    Keeps property (fun _ => True) (env kijiHome) := by
  have chosen : Keeps property (fun _ => True) (chosenRoot kijiHome) := by
    unfold chosenRoot
    split
    · exact (keeps_world.bind fun _ => keeps_ofExcept fun _ _ => trivial).map _
    · exact (keeps_world.bind fun _ => keeps_ofExcept fun _ _ => trivial).map _
    · exact keeps_pure _
  have resolved (p : Path) : Keeps property (fun _ => True) (resolvedRoot p) := by
    apply keeps_world.bind
    intro world
    split
    · exact keeps_throw trivial
    · split
      · exact keeps_throw trivial
      · exact keeps_throw trivial
      · exact keeps_pure _
  rw [env_eq]
  apply chosen.bind
  intro p
  apply (resolved p).bind
  intro root
  exact quiet.exportRoot (fun _ _ => trivial) (fun _ _ => trivial)

end Checkin.Tool

import Checkin.Proofs.CommandLine
import Checkin.Proofs.Path
import Checkin.Proofs.Tool.EnvironmentFile
import Checkin.Proofs.Tool.Pipeline
import Checkin.Proofs.Tool.Sinks

/-!
# Options for the log

An option for the log does not change what a command does. With more of the log shown, details stand among the
records that are shown without it. With a log file that is there already, what would have gone to standard
error goes to the end of the file, once the arguments have been looked at.
-/

namespace Checkin.Tool

open Checkin.Action Checkin.CommandLine FileTree

variable {program : Option Path} {w : World} {args args' : List String} {command : Command}
  {settings : Settings} {file : String} {l : Location} {before : List UInt8} {s : Session} {failure : Failure}

/-- An absolute path without double dots leads to a file that is there already. -/
structure LogFile (w : World) (file : String) (l : Location) (before : List UInt8) : Prop where
  absolute : (Path.ofText file).isAbsolute = true
  noUps : ".." ∉ (Path.ofText file).names
  found : w.files.find w.workingDirectory (Path.ofText file) .target = .ok ⟨l, 0⟩
  there : w.files.get? l = some (.file before)

/-! ## Commands -/

/-- What every command consults is known where all variables are. -/
theorem consults_all (command : Command) (settings : Settings) : Consults (fun _ => True) command settings :=
  ⟨fun _ => ⟨trivial, trivial, trivial⟩, fun _ => trivial, fun _ => trivial⟩

/-- A command does the same when more of its log is shown. -/
theorem detailed_runCommand (command : Command) (unlogged : settings.logFile = none)
    (terse : settings.verbose = false) (timed : ∃ second, s.world.now.wholePart = .ok second) :
    (exec (runCommand command settings) s).1 = (exec (runCommand command settings.verbosely) s).1 ∧
      Detailed s.journal s.errors (exec (runCommand command settings) s).2
        (exec (runCommand command settings.verbosely) s).2 := by
  have settles := exec_settleLog_of_unnamed (.inl unlogged) s
  have settles' := exec_settleLog_of_unnamed (.inl (show settings.verbosely.logFile = none from unlogged)) s
  have start : Detailed s.journal s.errors { s with sink := .standardError (threshold settings) }
      { s with sink := .standardError (threshold settings.verbosely) } := by
    refine ⟨rfl, rfl, timed, by simp [threshold, terse], rfl, [], ?_⟩
    simp [withoutDetails, logText, String.join]
  have likeness : Likeness (fun _ => True) (Detailed s.journal s.errors) := Detailed.likeness
  have executes : Agrees (Detailed s.journal s.errors) (execute command settings)
      (execute command settings.verbosely) :=
    likeness.execute likeness (consults_all command settings) rfl (fun _ => Detailed.explores)
      (fun _ _ _ _ _ => ⟨Detailed.tends _, Detailed.tends _⟩) fun _ _ => id
  rw [exec_runCommand_of_settled settles, exec_runCommand_of_settled settles']
  exact carries_reporting likeness.log command executes _ _ start

/-- A log file that is there is opened, and nothing else happens. -/
theorem exec_settleLog_loggingTo (unlogged : settings.logFile = none) (log : LogFile s.world file l before) :
    exec (settleLog (settings.loggingTo file)) s =
      (.ok (), { s with sink := .file (threshold settings) l }) := by
  obtain ⟨absolute, noUps, found, there⟩ := log
  have named : (settings.loggingTo file).logFile = some file := by
    rw [Settings.loggingTo, unlogged, Option.none_or]
  have notEmpty : file ≠ "" := by
    rintro rfl
    exact absurd absolute (by decide)
  have path : logPath s.world.workingDirectory file = .ok (Path.ofText file) := by
    simp only [logPath, absolute, if_true, Path.normal_of_noUps noUps]
    rfl
  have opens := openFile_of_file (find_file_of_find_target absolute found there) there
  rw [exec_settleLog_of_named named notEmpty, path]
  simp only [opens]
  rfl

/-- A command does the same when its log goes to a file that is there, and that is no state file. -/
theorem diverted_runCommand (command : Command) (unlogged : settings.logFile = none)
    (log : LogFile s.world file l before)
    (apart : ∀ cfg, exec config s = (.ok cfg, s) →
      Apart s.world l cfg.idFile ∧ Apart s.world l cfg.lastUsedFile) :
    (exec (runCommand command settings) s).1 = (exec (runCommand command (settings.loggingTo file)) s).1 ∧
      Diverted (threshold settings) l before s.errors (exec (runCommand command settings) s).2
        (exec (runCommand command (settings.loggingTo file)) s).2 := by
  have settles := exec_settleLog_of_unnamed (.inl unlogged) s
  have settles' := exec_settleLog_loggingTo unlogged log
  have start : Looking (threshold settings) l before s.errors s.world
      { s with sink := .standardError (threshold settings) }
      { s with sink := .file (threshold settings) l } := by
    refine ⟨⟨rfl, rfl, rfl, rfl, rfl, "", by simp, ?_⟩, rfl, housed_of_find log.absolute log.found,
      fun _ _ => rfl⟩
    rw [show Text.encode "" = [] from rfl, List.append_nil]
    exact Twins.refl log.there
  have likeness : Likeness (fun _ => True) (Looking (threshold settings) l before s.errors s.world) :=
    Looking.likeness
  have likeness' : Likeness (fun _ => True) (Diverted (threshold settings) l before s.errors) :=
    Diverted.likeness
  have executes : Carries (Looking (threshold settings) l before s.errors s.world)
      (Diverted (threshold settings) l before s.errors) (execute command settings)
      (execute command (settings.loggingTo file)) := by
    refine likeness.execute likeness' (consults_all command settings) rfl (fun _ => Looking.explores) ?_
      fun _ _ looking => looking.toDiverted
    intro t t' cfg looking configured
    -- The configuration is that of the session at the start, from which only draws are gone.
    have configured' : exec config s = (.ok cfg, s) := by
      rw [exec_config, looking.unchanged, Prod.mk.injEq] at configured
      rw [exec_config]
      exact Prod.ext configured.1 rfl
    obtain ⟨apartId, apartTime⟩ := apart cfg configured'
    exact ⟨Looking.tends apartId, Looking.tends apartTime⟩
  rw [exec_runCommand_of_settled settles, exec_runCommand_of_settled settles']
  exact carries_reporting likeness'.log command executes _ _ start

/-! ## Runs -/

/-- How a run ends, and what it leaves. -/
def outcome (program : Option Path) (w : World) (args : List String) : Ending × Session :=
  (run program args).run (.start w .unsettled)

/-- The session in which a run looks at its arguments, if nothing fails before. -/
def prepared (program : Option Path) (w : World) : Session :=
  (exec (prepare program) (.start w .unsettled)).2

/-- The lines that cannot be read of the environment file that a run loads. -/
def passedOver (program : Option Path) (w : World) : List Nat :=
  match program with
  | none => []
  | some p =>
    if EnvironmentFile.isDisabled w.environment then [] else unreadLines w p.normal.parent.names

/-- A file can take the log of a run: it is there already, and the run keeps no state in it. -/
structure TakesLog (program : Option Path) (w : World) (file : String) (l : Location)
    (before : List UInt8) : Prop extends LogFile w file l before where
  apart : ∀ s cfg, exec (prepare program) (.start w .unsettled) = (.ok (), s) →
    exec config s = (.ok cfg, s) → Apart w l cfg.idFile ∧ Apart w l cfg.lastUsedFile

/-- A run does what another one does, and shows details besides, once it has come to some session. -/
structure ShowsMore (s : Session) (plain verbose : Ending × Session) : Prop where
  ending : verbose.1 = plain.1
  world : verbose.2.world = plain.2.world
  output : verbose.2.output = plain.2.output
  records : ∃ records, plain.2.journal = s.journal ++ withoutDetails records ∧
    verbose.2.journal = s.journal ++ records ∧
    plain.2.errors = s.errors ++ logText plain.2.world.now (withoutDetails records) ∧
    verbose.2.errors = s.errors ++ logText plain.2.world.now records

/-- A run does what another one does, but says at the end of a file what the other one says on standard error,
once it has come to some session. -/
structure LogsTo (s : Session) (l : Location) (before : List UInt8) (plain filed : Ending × Session) :
    Prop where
  ending : filed.1 = plain.1
  world : filed.2.world = { plain.2.world with files := filed.2.world.files }
  output : filed.2.output = plain.2.output
  errors : filed.2.errors = s.errors
  text : ∃ text, plain.2.errors = s.errors ++ text ∧
    Twins l before (before ++ Text.encode text) plain.2.world.files filed.2.world.files

theorem outcome_of_failed (failed : exec (prepare program) (.start w .unsettled) = (.error failure, s))
    (args : List String) : outcome program w args = (.escape failure, closing w.environment s) := by
  rw [outcome, run_eq, exec_start, exec_bind_of_error failed]
  rfl

theorem outcome_of_prepared (done : exec (prepare program) (.start w .unsettled) = (.ok (), s))
    (asks : parse args = .run command settings) :
    outcome program w args = (endingOf (exec (runCommand command settings) s).1,
      closing w.environment (exec (runCommand command settings) s).2) := by
  rw [outcome, run_eq, exec_start, exec_bind_of_ok done, exec_respond_of_run asks]
  rfl

/-- A command without the configuration that it needs ends with the failure to get it, if that is not one to
report. -/
theorem outcome_of_config (done : exec (prepare program) (.start w .unsettled) = (.ok (), s))
    (asks : parse args = .run command settings) (needed : NeedsConfig command settings)
    (unlogged : settings.logFile = none ∨ settings.logFile = some "")
    (failed : (exec config s).1 = .error failure) (unreported : failure.isReported = false) :
    outcome program w args =
      (.escape failure, closing w.environment { s with sink := .standardError (threshold settings) }) := by
  rw [outcome_of_prepared done asks, exec_runCommand_of_config needed unlogged failed unreported]
  rfl

theorem untouched_prepared {result : Except Failure Unit}
    (ran : exec (prepare program) (.start w .unsettled) = (result, s)) : Untouched w s := by
  have untouched := (Untouched.prepare program (.start w .unsettled) ⟨rfl, rfl⟩).1
  rwa [ran] at untouched

/-- Before a run looks at its arguments, it says which lines it could not read, and variables that are set keep
their values. -/
theorem exists_of_prepared (done : exec (prepare program) (.start w .unsettled) = (.ok (), s)) :
    ∃ environment, s = (Session.start w .unsettled).within
        ⟨environment, (passedOver program w).map unreadRecord, unreadText (passedOver program w)⟩ ∧
      ∀ name value, w.environment.get? name = some value → environment.get? name = some value := by
  cases program with
  | none =>
    cases done
    exact ⟨w.environment, rfl, fun _ _ => id⟩
  | some p =>
    have ran : exec (openProgram p >>= loadEnvironmentFile) (.start w .unsettled) = (.ok (), s) := done
    obtain ⟨directory, between, opened, loaded⟩ := exists_of_exec_bind ran
    obtain ⟨rfl, rfl⟩ := eq_of_exec_openProgram opened
    cases enabled : EnvironmentFile.isDisabled w.environment with
    | true =>
      rw [exec_loadEnvironmentFile_of_disabled enabled, Prod.mk.injEq] at loaded
      refine ⟨w.environment, ?_, fun _ _ => id⟩
      rw [← loaded.2, passedOver, if_pos enabled]
      rfl
    | false =>
      obtain ⟨environment, left, valued⟩ := exec_loadEnvironmentFile enabled loaded
      refine ⟨environment, ?_, fun name value set => by rw [valued, set, Option.some_or]⟩
      rw [left, passedOver, if_neg (by simp [enabled])]
      rfl

/-- What a run says before it looks at its arguments is of lines that it could not read. -/
theorem errors_prepared (done : (exec (prepare program) (.start w .unsettled)).1 = .ok ()) :
    (prepared program w).errors = unreadText (passedOver program w) := by
  obtain ⟨environment, left, -⟩ := exists_of_prepared (Prod.ext done rfl)
  exact (congrArg Session.errors left).trans String.append_empty

/-- Where a run asks for a command, one that asks for the same with more of the log shown does the same. -/
theorem showsMore_of_verbosely (asks : parse args = .run command settings)
    (asks' : parse args' = .run command settings.verbosely) (unlogged : settings.logFile = none)
    (terse : settings.verbose = false) (timed : ∃ second, w.now.wholePart = .ok second) :
    ShowsMore (prepared program w) (outcome program w args) (outcome program w args') := by
  unfold prepared
  cases ran : exec (prepare program) (.start w .unsettled) with
  | mk result s =>
    cases result with
    | error failure =>
      rw [outcome_of_failed ran, outcome_of_failed ran]
      refine ⟨rfl, rfl, rfl, [], ?_⟩
      simp [withoutDetails, logText, String.join, closing]
    | ok done =>
      rw [outcome_of_prepared ran asks, outcome_of_prepared ran asks']
      have timed' : ∃ second, s.world.now.wholePart = .ok second := by
        rwa [(untouched_prepared ran).world]
      obtain ⟨same, detailed⟩ := detailed_runCommand command unlogged terse timed'
      exact ⟨by rw [same], by simp only [closing, detailed.world], detailed.output, detailed.records⟩

/-- Where a run asks for a command, one that asks for the same with a log file that is there does the same. -/
theorem logsTo_of_loggingTo (asks : parse args = .run command settings)
    (asks' : parse args' = .run command (settings.loggingTo file)) (unlogged : settings.logFile = none)
    (takes : TakesLog program w file l before) :
    LogsTo (prepared program w) l before (outcome program w args) (outcome program w args') := by
  unfold prepared
  cases ran : exec (prepare program) (.start w .unsettled) with
  | mk result s =>
    have untouched := untouched_prepared ran
    have log : LogFile s.world file l before := by
      rw [untouched.world]
      exact ⟨takes.absolute, takes.noUps, takes.found, takes.there⟩
    cases result with
    | error failure =>
      rw [outcome_of_failed ran, outcome_of_failed ran]
      refine ⟨rfl, rfl, rfl, rfl, "", by simp [closing], ?_⟩
      rw [show Text.encode "" = [] from rfl, List.append_nil]
      exact Twins.refl log.there
    | ok done =>
      have apart : ∀ cfg, exec config s = (.ok cfg, s) →
          Apart s.world l cfg.idFile ∧ Apart s.world l cfg.lastUsedFile := by
        intro cfg configured
        obtain ⟨apartId, apartTime⟩ := takes.apart s cfg ran configured
        rw [untouched.world]
        exact ⟨⟨apartId.found, apartId.lands⟩, apartTime.found, apartTime.lands⟩
      rw [outcome_of_prepared ran asks, outcome_of_prepared ran asks']
      obtain ⟨same, diverted⟩ := diverted_runCommand command unlogged log apart
      refine ⟨by rw [same], ?_, diverted.output, diverted.errors, diverted.text⟩
      simp only [closing]
      rw [diverted.world]

/-- An option for the log does not change what a run does that asks for a command without any. With `-v`, it
ends alike and leaves and prints the same, and the log has details besides, as long as the clock shows a time.
With a log file that is there and holds no state, it ends alike and leaves and prints the same, and what it
would say on standard error is appended to the file, with `-v` and without. All that it does say on standard
error then is what is said before the arguments are looked at, of lines that it could not read. -/
theorem outcome_with_logOptions (program : Option Path) (w : World)
    (asks : parse args = .run command settings) (unlogged : settings.logFile = none)
    (terse : settings.verbose = false) :
    ((∃ second, w.now.wholePart = .ok second) →
      ShowsMore (prepared program w) (outcome program w args) (outcome program w ("-v" :: args))) ∧
    (∀ file l before, TakesLog program w file l before →
      LogsTo (prepared program w) l before (outcome program w args)
        (outcome program w (("--log-file=" ++ file) :: args)) ∧
      LogsTo (prepared program w) l before (outcome program w ("-v" :: args))
        (outcome program w ("-v" :: ("--log-file=" ++ file) :: args)) ∧
      LogsTo (prepared program w) l before (outcome program w ("-v" :: args))
        (outcome program w (("--log-file=" ++ file) :: "-v" :: args))) ∧
    ((exec (prepare program) (.start w .unsettled)).1 = .ok () →
      (prepared program w).errors = unreadText (passedOver program w)) := by
  have verbosely : parse ("-v" :: args) = .run command settings.verbosely := by
    rw [parse_verbose_cons, asks]
    rfl
  refine ⟨showsMore_of_verbosely asks verbosely unlogged terse, ?_, errors_prepared⟩
  intro file l before takes
  have notMark : file ≠ "--" := by
    rintro rfl
    exact absurd takes.absolute (by decide)
  have filed : parse (("--log-file=" ++ file) :: args) = .run command (settings.loggingTo file) := by
    rw [parse_logFile_cons notMark, asks]
    rfl
  have both : parse ("-v" :: ("--log-file=" ++ file) :: args) =
      .run command (settings.verbosely.loggingTo file) := by
    rw [parse_verbose_cons, filed]
    rfl
  have both' : parse (("--log-file=" ++ file) :: "-v" :: args) =
      .run command (settings.verbosely.loggingTo file) := by
    rw [parse_logFile_cons notMark, verbosely]
    rfl
  exact ⟨logsTo_of_loggingTo asks filed unlogged takes, logsTo_of_loggingTo verbosely both unlogged takes,
    logsTo_of_loggingTo verbosely both' unlogged takes⟩

/-! ## A log file next to an environment file -/

/-- The ready world with a program, with an environment file that has a line which cannot be read, and with a
log file. -/
def loggedWorld : World :=
  { readyWorld with
    files := ((readyWorld.files.set ["main.py"] (.file [])).set [".env"] (.file (Text.encode "a b\n"))).set
      ["log.txt"] (.file (Text.encode "before\n")) }

/-- The program there. -/
def loggedProgram : Option Path := some ⟨.absolute, ["main.py"]⟩

theorem opened_loggedWorld :
    exec (openProgram ⟨.absolute, ["main.py"]⟩) (.start loggedWorld .unsettled) =
      (.ok [], .start loggedWorld .unsettled) := by
  have there : loggedWorld.files.get? ["main.py"] = some (.file []) := rfl
  exact exec_openProgram_atRoot (by decide) there

theorem located_loggedWorld :
    (EnvironmentFile.candidates []).find?
        (EnvironmentFile.namesFile loggedWorld.files loggedWorld.workingDirectory) =
      some ⟨.absolute, [".env"]⟩ := by
  have there : loggedWorld.files.get? [".env"] = some (.file (Text.encode "a b\n")) := rfl
  exact find?_candidates_atRoot there

theorem readText_loggedWorld :
    Store.readText loggedWorld.files loggedWorld.workingDirectory ⟨.absolute, [".env"]⟩ =
      .ok "a b\n" := by
  have read : loggedWorld.files.read loggedWorld.workingDirectory ⟨.absolute, [".env"]⟩ =
      .ok (Text.encode "a b\n") := read_root (by decide) rfl
  simp only [Store.readText, read]
  rfl

/-- The line in the environment file cannot be read, and binds nothing. -/
theorem readStatements_loggedWorld :
    EnvironmentFile.readStatements 1 (EnvironmentFile.withoutMark "a b\n".toList) = ([], [1]) := by cbv

theorem loaded_loggedWorld :
    (exec (loadEnvironmentFile []) (.start loggedWorld .unsettled)).1 = .ok () := by
  have binds : loggedWorld.grammar.bindings loggedWorld.environment "a b\n" = [] := by
    show EnvironmentFile.resolve _ (EnvironmentFile.readStatements 1 _).1 = []
    rw [readStatements_loggedWorld]
    rfl
  have clock : loggedWorld.now.wholePart = .ok 0 := by rfl
  have bound : (loggedWorld.grammar.bindings loggedWorld.environment "a b\n").foldlM EnvironmentFile.bind
      loggedWorld.environment = .ok loggedWorld.environment := by
    rw [binds]
    rfl
  exact fst_exec_loadEnvironmentFile rfl located_loggedWorld readText_loggedWorld bound clock

theorem prepares_loggedWorld :
    (exec (prepare loggedProgram) (.start loggedWorld .unsettled)).1 = .ok () := by
  show (exec (openProgram ⟨.absolute, ["main.py"]⟩ >>= loadEnvironmentFile) _).1 = _
  rw [exec_bind_of_ok opened_loggedWorld, loaded_loggedWorld]

theorem passedOver_loggedWorld : passedOver loggedProgram loggedWorld = [1] := by
  have unread : loggedWorld.grammar.unread "a b\n" = [1] := congrArg Prod.snd readStatements_loggedWorld
  show unreadLines loggedWorld [] = [1]
  rw [unreadLines, nearestText?, located_loggedWorld]
  simp only [readText_loggedWorld, Except.toOption, Option.elim, unread]

/-- The state files are at the root, as the environment file does not unset a variable. -/
theorem stateDir_loggedWorld {cfg : Config}
    (done : exec (prepare loggedProgram) (.start loggedWorld .unsettled) = (.ok (), s))
    (configured : exec config s = (.ok cfg, s)) : cfg.stateDir = ⟨.absolute, []⟩ := by
  have loaded : exec (loadEnvironmentFile []) (.start loggedWorld .unsettled) = (.ok (), s) := by
    rw [← done]
    show _ = exec (openProgram ⟨.absolute, ["main.py"]⟩ >>= loadEnvironmentFile) _
    rw [exec_bind_of_ok opened_loggedWorld]
  obtain ⟨environment, rfl, valued⟩ := exec_loadEnvironmentFile rfl loaded
  have set : environment.get? stateDirVariable = some "/" := valued stateDirVariable
  rw [exec_config, Prod.mk.injEq, Config.load_eq] at configured
  obtain ⟨given, -, configured⟩ := exists_of_bind_eq_ok configured.1
  obtain ⟨stateDir, chosen, configured⟩ := exists_of_bind_eq_ok configured
  obtain ⟨kijiHome, -, configured⟩ := exists_of_bind_eq_ok configured
  cases configured
  have nonempty : environment.nonempty? stateDirVariable = some "/" := by
    rw [Environment.nonempty?, set]
    rfl
  have choice : Config.chosenStateDir environment (loggedWorld.accounts.under environment) =
      .ok stateDir := chosen
  rw [Config.chosenStateDir, nonempty] at choice
  cases choice
  rfl

theorem takesLog_loggedWorld :
    TakesLog loggedProgram loggedWorld "/log.txt" ["log.txt"] (Text.encode "before\n") := by
  have path : Path.ofText "/log.txt" = ⟨.absolute, ["log.txt"]⟩ := by rfl
  have leads {name : String} {content : List UInt8} (usable : UsableIn ⟨.absolute, []⟩ name)
      (there : loggedWorld.files.get? [name] = some (.file content)) :
      loggedWorld.files.find loggedWorld.workingDirectory ⟨.absolute, [name]⟩ .target = .ok ⟨[name], 0⟩ :=
    find_atRoot usable there .target
  refine ⟨⟨by rw [path]; rfl, by rw [path]; decide, ?_, rfl⟩, fun s cfg done configured => ?_⟩
  · rw [path]
    exact leads (by decide) rfl
  · have stateDir := stateDir_loggedWorld done configured
    simp only [Config.idFile, Config.lastUsedFile, stateDir]
    exact ⟨.of_find (leads (by decide) rfl) rfl (by decide), .of_find (leads (by decide) rfl) rfl (by decide)⟩

/-- There, a run shows more of its log, and has it in the file, with one warning before. -/
theorem outcome_with_logOptions_loggedWorld :
    ShowsMore (prepared loggedProgram loggedWorld) (outcome loggedProgram loggedWorld ["generate-uuid"])
      (outcome loggedProgram loggedWorld ["-v", "generate-uuid"]) ∧
    LogsTo (prepared loggedProgram loggedWorld) ["log.txt"] (Text.encode "before\n")
      (outcome loggedProgram loggedWorld ["generate-uuid"])
      (outcome loggedProgram loggedWorld ["--log-file=/log.txt", "generate-uuid"]) ∧
    LogsTo (prepared loggedProgram loggedWorld) ["log.txt"] (Text.encode "before\n")
      (outcome loggedProgram loggedWorld ["-v", "generate-uuid"])
      (outcome loggedProgram loggedWorld ["-v", "--log-file=/log.txt", "generate-uuid"]) ∧
    LogsTo (prepared loggedProgram loggedWorld) ["log.txt"] (Text.encode "before\n")
      (outcome loggedProgram loggedWorld ["-v", "generate-uuid"])
      (outcome loggedProgram loggedWorld ["--log-file=/log.txt", "-v", "generate-uuid"]) ∧
    (prepared loggedProgram loggedWorld).errors = unreadText [1] := by
  obtain ⟨more, files, said⟩ :=
    outcome_with_logOptions loggedProgram loggedWorld generates_readyRun rfl rfl
  obtain ⟨filed, both, both'⟩ := files "/log.txt" _ _ takesLog_loggedWorld
  refine ⟨more ⟨0, by rfl⟩, filed, both, both', ?_⟩
  rw [said prepares_loggedWorld, passedOver_loggedWorld]

/-! ## A clock without a time -/

/-- The ready world with a clock that shows no time. -/
def untimedWorld : World := { readyWorld with now := .infinite false }

theorem id_untimedWorld :
    Store.readId untimedWorld.files untimedWorld.workingDirectory rootConfig.idFile = .ok "abc" :=
  toOption_eq_some_iff.1 idIn_readyWorld

/-- Where there is an id, a command that asks for one only says so, among the details. -/
theorem exec_generateUuid_untimedWorld (settings : Settings) (threshold : Level) :
    exec (execute .generateUuid settings) (.start untimedWorld (.standardError threshold)) =
      (if threshold = .debug then .error .infiniteNumber else .ok (),
        .start untimedWorld (.standardError threshold)) := by
  have configured : exec config (.start untimedWorld (.standardError threshold)) =
      (.ok rootConfig, .start untimedWorld (.standardError threshold)) := by
    rw [exec_config]
    exact congrArg (·, _) configured_readyWorld
  have asked := Store.exec_writeIdIfAbsent_of_some
    (Store.exec_existingId?_of_readId (s := .start untimedWorld (.standardError threshold)) id_untimedWorld)
  rw [execute, exec_bind_of_ok configured, exec_discard, generateId_eq, exec_bind_of_ok asked, reportId,
    if_neg (by decide), exec_bind, exec_log]
  cases threshold <;> rfl

/-- A warning about a line of an environment file still goes to standard error when there is a log file; and
a run that shows details fails where the clock shows no time. -/
theorem logOptions_tell :
    (parse ["generate-uuid"] = .run .generateUuid .default ∧
      TakesLog loggedProgram loggedWorld "/log.txt" ["log.txt"] (Text.encode "before\n") ∧
      (outcome loggedProgram loggedWorld ["--log-file=/log.txt", "generate-uuid"]).2.errors ≠ "") ∧
    (outcome none untimedWorld ["-v", "generate-uuid"]).1 ≠
      (outcome none untimedWorld ["generate-uuid"]).1 := by
  refine ⟨⟨generates_readyRun, takesLog_loggedWorld, ?_⟩, ?_⟩
  · have filed : parse ["--log-file=/log.txt", "generate-uuid"] =
        .run .generateUuid (Settings.loggingTo "/log.txt" .default) := by cbv
    rw [(logsTo_of_loggingTo generates_readyRun filed rfl takesLog_loggedWorld).errors,
      errors_prepared prepares_loggedWorld, passedOver_loggedWorld]
    decide
  · have asks : parse ["-v", "generate-uuid"] = .run .generateUuid (Settings.verbosely .default) := by cbv
    have plain : exec (attempt .generateUuid .default) (.start untimedWorld .unsettled) =
        (.ok (), .start untimedWorld (.standardError .info)) := by
      rw [attempt, exec_bind_of_ok (exec_settleLog_of_unnamed (.inl rfl) _)]
      exact exec_generateUuid_untimedWorld .default .info
    have verbose : exec (attempt .generateUuid (Settings.verbosely .default))
        (.start untimedWorld .unsettled) =
        (.error .infiniteNumber, .start untimedWorld (.standardError .debug)) := by
      rw [attempt, exec_bind_of_ok (exec_settleLog_of_unnamed (.inl rfl) _)]
      exact exec_generateUuid_untimedWorld (Settings.verbosely .default) .debug
    rw [outcome_of_prepared rfl generates_readyRun, outcome_of_prepared rfl asks,
      exec_runCommand_of_ok plain, exec_runCommand_of_error verbose]
    intro same
    cases same

end Checkin.Tool

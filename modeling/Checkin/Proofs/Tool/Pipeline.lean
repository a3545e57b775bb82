import Checkin.Proofs.Store.Uses
import Checkin.Proofs.Tool.Checkin
import Checkin.Proofs.Tool.Failures

/-!
# One run after another

Runs that keep the state files are uses of these files, each with the files that the runs before it leave. A
check-in that follows them tells the id that was there, or else the one of the first run that asked for it,
and the last time that a run recorded.
-/

namespace Checkin.Tool

open Checkin.Action Checkin.CommandLine Store FileTree

variable {t t' : FileTree} {here : Place} {accounts : Homes} {environment : Environment} {cfg : Config}
  {settings : Settings} {w : World} {s s' : Session} {draw : Draw} {millis : Int} {version : String}

/-! ## Runs -/

/-- A run of the tool: the program's file if environment files are in reach, the arguments, and what the run
finds around it besides the files. -/
structure Run where
  program : Option Path
  args : List String
  world : World

namespace Run

/-- The session in which a run starts. -/
def before (run : Run) (t : FileTree) : Session :=
  .start { run.world with files := t } .unsettled

/-- How a run ends, and what it leaves. -/
def result (run : Run) (t : FileTree) : Ending × Session :=
  (Tool.run run.program run.args).run (run.before t)

/-- A run starts in a working directory on a system with some accounts, and has an environment once its
environment file is loaded. -/
structure Finds (run : Run) (here : Place) (accounts : Homes) (environment : Environment) (t : FileTree) :
    Prop where
  workingDirectory : run.world.workingDirectory = here
  accounts : run.world.accounts = accounts
  prepares : ∃ s, exec (prepare run.program) (run.before t) = (.ok (), s) ∧
    s.world.environment = environment

/-- What a run uses the state files for, if its log goes to no file. -/
inductive IsFor (run : Run) : Use → Prop
  | generate {settings : Settings} : parse run.args = .run .generateUuid settings →
      settings.logFile = none ∨ settings.logFile = some "" →
      IsFor run (.generate (run.world.draws.headD .zeros))
  | record {settings : Settings} {millis : Int} : parse run.args = .run .recordUsage settings →
      settings.logFile = none ∨ settings.logFile = some "" →
      (run.world.now.scale 1000).wholePart = .ok millis → IsFor run (.record millis)

end Run

/-- Runs that end with exit code 0, one after another, each with the files that those before it leave. -/
inductive Succession (here : Place) (accounts : Homes) (environment : Environment) :
    FileTree → List Run → FileTree → Prop
  | nil {t : FileTree} : Succession here accounts environment t [] t
  | cons {t t' : FileTree} {run runs} : run.Finds here accounts environment t → (run.result t).1 = .exit 0 →
      Succession here accounts environment (run.result t).2.world.files runs t' →
      Succession here accounts environment t (run :: runs) t'

/-! ## What is prepared -/

/-- Nothing but the environment is different in a session so far. -/
structure Untouched (w : World) (s : Session) : Prop where
  world : s.world = { w with environment := s.world.environment }
  sink : s.sink = .unsettled

theorem Untouched.quiet : LogQuiet (Untouched w) fun _ => True := by
  refine ⟨fun s r _ untouched => ?_, fun _ _ _ _ => trivial⟩
  have aloud : ∀ threshold l, s.sink ≠ .file threshold l := by simp [untouched.sink]
  refine ⟨?_, by rw [Session.write_sink, untouched.sink]⟩
  rw [Session.write_world_of_no_file aloud r]
  exact untouched.world

theorem Untouched.prepare (program : Option Path) :
    Keeps (Untouched w) (fun _ => True) (prepare program) :=
  Untouched.quiet.prepare (fun s environment untouched => ⟨by rw [untouched.world], untouched.sink⟩) program

/-- A run fails while it is prepared, or it goes on from a session in which nothing but the environment is
different and nothing was printed. -/
theorem run_cases (program : Option Path) (args : List String) (w : World) :
    ∃ result s, exec (prepare program) (.start w .unsettled) = (result, s) ∧ Untouched w s ∧ s.output = "" ∧
      ((∃ failure, result = .error failure ∧
        (run program args).run (.start w .unsettled) = (.escape failure, closing w.environment s)) ∨
      (result = .ok () ∧ (run program args).run (.start w .unsettled) =
        (endingOf (exec (respond args) s).1, closing w.environment (exec (respond args) s).2))) := by
  have untouched : Untouched w (exec (prepare program) (.start w .unsettled)).2 :=
    (Untouched.prepare program (.start w .unsettled) ⟨rfl, rfl⟩).1
  have still : Still "" w.now (exec (prepare program) (.start w .unsettled)).2 :=
    (Still.prepare program (.start w .unsettled) ⟨rfl, rfl⟩).1
  rw [run_eq, exec_start]
  cases prepared : exec (prepare program) (.start w .unsettled) with
  | mk result s =>
    rw [prepared] at untouched still
    refine ⟨result, s, rfl, untouched, still.output, ?_⟩
    cases result with
    | error failure =>
      rw [exec_bind_of_error prepared]
      exact .inl ⟨failure, rfl, rfl⟩
    | ok done =>
      rw [exec_bind_of_ok prepared]
      exact .inr ⟨rfl, rfl⟩

/-- A run goes on from a world that has another environment and the same besides. -/
theorem Run.Finds.result {run : Run} (finds : run.Finds here accounts environment t) :
    ∃ s, s.world = { run.world with files := t, workingDirectory := here, accounts, environment } ∧
      s.output = "" ∧
      run.result t = (endingOf (exec (respond run.args) s).1,
        closing run.world.environment (exec (respond run.args) s).2) := by
  obtain ⟨rfl, rfl, s, prepared, rfl⟩ := finds
  obtain ⟨result, s', prepared', untouched, silent, ⟨failure, rfl, -⟩ | ⟨rfl, ran⟩⟩ :=
    run_cases run.program run.args { run.world with files := t }
  · cases prepared.symm.trans prepared'
  · cases prepared.symm.trans prepared'
    exact ⟨s, untouched.world, silent, ran⟩

/-! ## What a run uses the state files for -/

/-- A session has some files, its clock shows some time, and its log goes to no file. -/
structure Filed (t : FileTree) (now : Binary64) (s : Session) : Prop where
  files : s.world.files = t
  clock : s.world.now = now
  aloud : ∀ threshold l, s.sink ≠ .file threshold l

theorem Filed.quiet {now : Binary64} {failing : Failure → Prop}
    (timeless : ∀ failure, now.wholePart = .error failure → failing failure) :
    LogQuiet (Filed t now) failing := by
  refine ⟨fun s r _ filed => ?_, fun s failure filed failed => timeless failure (by rwa [← filed.clock])⟩
  have same := Session.write_world_of_no_file filed.aloud r
  refine ⟨by rw [same, filed.files], by rw [same, filed.clock], ?_⟩
  rw [Session.write_sink]
  exact filed.aloud

theorem leaves_of_generateId {id : String} (aloud : ∀ threshold l, s.sink ≠ .file threshold l)
    (ran : exec (Usage.generateId cfg) s = (.ok id, s')) :
    Use.Leaves s.world.workingDirectory s.world.depth cfg s.world.files (.generate s.nextDraw) s'.world.files := by
  rw [generateId_eq] at ran
  obtain ⟨answer, between, asked, reported⟩ := exists_of_exec_bind ran
  obtain ⟨leaves, sink⟩ := leaves_of_writeIdIfAbsent aloud asked
  have reports : Keeps (Filed between.world.files between.world.now) (fun _ => True)
      (reportId cfg answer) := (Filed.quiet fun _ _ => trivial).reportId cfg answer
  have filed := (reports between ⟨rfl, rfl, by rwa [sink]⟩).1
  rw [reported] at filed
  rwa [filed.files]

theorem leaves_of_recordUse {value : Value} (aloud : ∀ threshold l, s.sink ≠ .file threshold l)
    (timed : (s.world.now.scale 1000).wholePart = .ok millis)
    (ran : exec (Usage.recordUse cfg .null) s = (.ok value, s')) :
    Use.Leaves s.world.workingDirectory s.world.depth cfg s.world.files (.record millis) s'.world.files := by
  rw [recordUse_eq] at ran
  obtain ⟨written, between, wrote, reported⟩ := exists_of_exec_bind ran
  rw [exec_writeLastUsed_of_time timed] at wrote
  obtain ⟨⟨⟩, after, wrote, same⟩ := exists_of_exec_bind wrote
  cases same
  obtain ⟨t', writes, rfl⟩ := exec_writeValue_eq_ok_iff.1 wrote
  have short : (Text.digits millis.natAbs).length ≤ Text.maxDigits := by
    have numeral := Binary64.numeral?_of_scale timed
    unfold Text.numeral? at numeral
    split at numeral
    · assumption
    · cases numeral
  have reports : Keeps (Filed t' s.world.now) (fun _ => True) (reportUse cfg (.int millis)) :=
    (Filed.quiet fun _ _ => trivial).reportUse cfg fun _ _ => trivial
  have filed := (reports (s.withFiles t') ⟨rfl, rfl, aloud⟩).1
  rw [reported] at filed
  rw [filed.files]
  exact .recorded short writes

/-- A run that ends well executes its command, its log going to standard error. -/
theorem Run.Finds.executes {run : Run} {command : Command} (finds : run.Finds here accounts environment t)
    (asks : parse run.args = .run command settings)
    (unnamed : settings.logFile = none ∨ settings.logFile = some "") (ended : (run.result t).1 = .exit 0) :
    ∃ s s', s.world = { run.world with files := t, workingDirectory := here, accounts, environment } ∧
      (∀ threshold l, s.sink ≠ .file threshold l) ∧ exec (execute command settings) s = (.ok (), s') ∧
      (run.result t).2.world.files = s'.world.files := by
  obtain ⟨s, same, -, result⟩ := finds.result
  rw [result] at ended ⊢
  rw [endingOf_eq_exit_iff] at ended
  cases ran : exec (respond run.args) s with
  | mk code s' =>
    rw [ran] at ended
    obtain rfl : code = .ok 0 := ended
    rw [exec_respond_of_run asks] at ran
    have tried := exec_attempt_of_runCommand ran
    rw [attempt, exec_bind_of_ok (exec_settleLog_of_unnamed unnamed s)] at tried
    exact ⟨{ s with sink := .standardError (threshold settings) }, s', same, by simp, tried, rfl⟩

/-- A run that ends well uses the state files for what it is meant for. -/
theorem leaves_of_exit {run : Run} {use : Use} (isFor : run.IsFor use)
    (finds : run.Finds here accounts environment t)
    (configured : Config.load environment (accounts.under environment) here = .ok cfg)
    (ended : (run.result t).1 = .exit 0) : use.Leaves here run.world.depth cfg t (run.result t).2.world.files := by
  cases isFor with
  | generate asks unnamed =>
    obtain ⟨s, s', same, aloud, ran, left⟩ := finds.executes asks unnamed ended
    have configured' : exec config s = (.ok cfg, s) := by rw [exec_config, World.homes, same, configured]
    rw [execute, exec_bind_of_ok configured'] at ran
    obtain ⟨id, generated⟩ := exists_of_exec_discard ran
    have leaves := leaves_of_generateId aloud generated
    rwa [Session.nextDraw, same, ← left] at leaves
  | record asks unnamed timed =>
    obtain ⟨s, s', same, aloud, ran, left⟩ := finds.executes asks unnamed ended
    have configured' : exec config s = (.ok cfg, s) := by rw [exec_config, World.homes, same, configured]
    rw [execute, exec_bind_of_ok configured'] at ran
    obtain ⟨value, recorded⟩ := exists_of_exec_discard ran
    have leaves := leaves_of_recordUse aloud (by rw [same]; exact timed) recorded
    rwa [same, ← left] at leaves

/-- Runs that end well use the state files one after another. -/
theorem uses_of_succession {runs : List Run} {history : List Use}
    (succession : Succession here accounts environment t runs t') (areFor : List.Forall₂ Run.IsFor runs history)
    (configured : Config.load environment (accounts.under environment) here = .ok cfg) :
    Uses here cfg t history t' := by
  induction succession generalizing history with
  | nil =>
    cases areFor
    exact .nil
  | cons finds ended rest ih =>
    cases areFor with
    | cons isFor others => exact .cons (leaves_of_exit isFor finds configured ended) (ih others)

/-! ## Runs that end well -/

/-- A run ends well if its command does, and leaves the same files. -/
theorem Run.Finds.exits {run : Run} {command : Command} (finds : run.Finds here accounts environment t)
    (asks : parse run.args = .run command settings)
    (unnamed : settings.logFile = none ∨ settings.logFile = some "")
    (ran : ∀ s, s.world = { run.world with files := t, workingDirectory := here, accounts, environment } →
      (∀ threshold l, s.sink ≠ .file threshold l) →
      ∃ s', exec (execute command settings) s = (.ok (), s') ∧ s'.world.files = t') :
    (run.result t).1 = .exit 0 ∧ (run.result t).2.world.files = t' := by
  obtain ⟨s, same, -, result⟩ := finds.result
  obtain ⟨s', ended, left⟩ := ran { s with sink := .standardError (threshold settings) } same (by simp)
  have tried : exec (attempt command settings) s = (.ok (), s') := by
    rw [attempt, exec_bind_of_ok (exec_settleLog_of_unnamed unnamed s), ended]
  rw [result, exec_respond_of_run asks, exec_runCommand_of_ok tried]
  exact ⟨rfl, left⟩

/-- A run that asks for an id ends well where there is one, and changes no file, while the clock shows a
time. -/
theorem exit_of_idIn {run : Run} {id : String} {second : Int} (finds : run.Finds here accounts environment t)
    (asks : parse run.args = .run .generateUuid settings)
    (unnamed : settings.logFile = none ∨ settings.logFile = some "")
    (configured : Config.load environment (accounts.under environment) here = .ok cfg)
    (there : idIn t here cfg = some id) (clock : run.world.now.wholePart = .ok second) :
    (run.result t).1 = .exit 0 ∧ (run.result t).2.world.files = t := by
  refine finds.exits asks unnamed fun s same aloud => ?_
  have configured' : exec config s = (.ok cfg, s) := by rw [exec_config, World.homes, same, configured]
  have read : readId s.world.files s.world.workingDirectory cfg.idFile = .ok id := by
    rw [same]
    exact toOption_eq_some_iff.1 there
  have asked := exec_writeIdIfAbsent_of_some (exec_existingId?_of_readId read)
  have reports : Keeps (Filed t run.world.now) (fun _ => False) (reportId cfg (id, false)) :=
    (Filed.quiet fun _ failed => by rw [clock] at failed; cases failed).reportId cfg (id, false)
  obtain ⟨answer, s', reported, filed⟩ := reports.exec_eq_ok (s := s) ⟨by rw [same], by rw [same], aloud⟩
  have generated : exec (Usage.generateId cfg) s = (.ok answer, s') := by
    rw [generateId_eq, exec_bind_of_ok asked, reported]
  refine ⟨s', ?_, filed.files⟩
  rw [execute, exec_bind_of_ok configured', exec_discard_of_ok generated]

/-- A run that records a time ends well where the time can be written. -/
theorem exit_of_writes {run : Run} (finds : run.Finds here accounts environment t)
    (asks : parse run.args = .run .recordUsage settings)
    (unnamed : settings.logFile = none ∨ settings.logFile = some "")
    (configured : Config.load environment (accounts.under environment) here = .ok cfg)
    (timed : (run.world.now.scale 1000).wholePart = .ok millis)
    (writes : Writes t here run.world.depth cfg.lastUsedFile (Text.numeral millis) t') :
    (run.result t).1 = .exit 0 ∧ (run.result t).2.world.files = t' := by
  obtain ⟨second, clock⟩ := Binary64.wholePart_of_scale (by decide) timed
  refine finds.exits asks unnamed fun s same aloud => ?_
  have configured' : exec config s = (.ok cfg, s) := by rw [exec_config, World.homes, same, configured]
  have wrote : exec (writeValue cfg.lastUsedFile (Text.numeral millis)) s = (.ok (), s.withFiles t') :=
    exec_writeValue_eq_ok_iff.2 ⟨t', by rwa [same], rfl⟩
  have written : exec (writeLastUsed cfg.lastUsedFile .null) s = (.ok (.int millis), s.withFiles t') := by
    rw [exec_writeLastUsed_of_time (by rwa [same]), exec_bind_of_ok wrote]
    rfl
  have reports : Keeps (Filed t' run.world.now) (fun _ => False) (reportUse cfg (.int millis)) :=
    (Filed.quiet fun _ failed => by rw [clock] at failed; cases failed).reportUse cfg
      fun _ failed => by cases failed
  obtain ⟨value, s', reported, filed⟩ :=
    reports.exec_eq_ok (s := s.withFiles t') ⟨rfl, by rw [Session.withFiles, same], aloud⟩
  have recorded : exec (Usage.recordUse cfg .null) s = (.ok value, s') := by
    rw [recordUse_eq, exec_bind_of_ok written, reported]
  refine ⟨s', ?_, filed.files⟩
  rw [execute, exec_bind_of_ok configured', exec_discard_of_ok recorded]

/-! ## The check-in that follows -/

/-- A check-in that follows runs which keep the state files and end well, at least one of each kind, ends
well too. It prints the message with the id that was there at the start, or else the one that the first run
drew which asked for an id, and with the last time that a run recorded. The state files may be no links, and
making their directory may bring nothing to light. -/
theorem checkin_after_runs {runs : List Run} {history : List Use} {checkin : Run}
    (configured : Config.load environment (accounts.under environment) here = .ok cfg)
    (plain : ∀ name ∈ stateFileNames, t.linkTarget? here (cfg.stateDir.child name) = none)
    (prompt : Prompt t here cfg)
    (succession : Succession here accounts environment t runs t') (areFor : List.Forall₂ Run.IsFor runs history)
    (first : history.findSome? Use.draw? = some draw)
    (last : history.reverse.findSome? Use.millis? = some millis)
    (fits : minMillis ≤ millis ∧ millis ≤ maxMillis)
    (finds : checkin.Finds here accounts environment t') (asks : parse checkin.args = .run .checkin settings)
    (unnamed : settings.logFile = none ∨ settings.logFile = some "")
    (timed : settings.verbose = true → ∃ second, checkin.world.now.wholePart = .ok second)
    (known : checkin.world.platform.Known)
    (given : ({ checkin.world with environment } : World).version? = some version) :
    (checkin.result t').1 = .exit 0 ∧
      ∃ m : Message, (checkin.result t').2.output = m.wire ++ "\n" ∧
        m.Tells checkin.world.platform ((idIn t here cfg).getD (installationId draw)) millis version := by
  have used := uses_of_succession succession areFor configured
  obtain ⟨id, time⟩ := used.idIn_and_timeIn prompt plain first last
  obtain ⟨s, same, silent, result⟩ := finds.result
  have ready : Ready s.world cfg ((idIn t here cfg).getD (installationId draw)) millis version := by
    rw [same]
    exact {
      configured, fits, known, given
      idFile := idIn_eq_some_iff.1 id
      lastUsedFile := timeIn_eq_some_iff.1 time }
  obtain ⟨ended, m, printed, tells⟩ :=
    exec_respond_checkin_of_ready asks unnamed (by rwa [same]) ready
  rw [same] at tells
  rw [result]
  refine ⟨endingOf_eq_exit_iff.2 ended, m, ?_, tells⟩
  show (exec (respond checkin.args) s).2.output = _
  rw [printed, silent, String.empty_append]

/-! ## Two runs and a check-in -/

/-- The state files of the ready world are in the root. -/
def rootConfig : Config := ⟨⟨.absolute, []⟩, ⟨.absolute, []⟩⟩

/-- A run of one word in the ready world, a second after the start of 1970. -/
def readyRun (word : String) : Run := ⟨none, [word], { readyWorld with now := .finite false 1 0 }⟩

theorem finds_readyRun (word : String) (t : FileTree) :
    (readyRun word).Finds .root readyWorld.accounts readyWorld.environment t :=
  ⟨rfl, rfl, _, rfl, rfl⟩

theorem configured_readyWorld :
    Config.load readyWorld.environment (readyWorld.accounts.under readyWorld.environment) .root =
      .ok rootConfig :=
  ready_readyWorld.configured

theorem stateFiles_readyWorld : ∀ name ∈ stateFileNames,
    UsableIn ⟨.absolute, []⟩ name ∧ ∃ content, readyWorld.files.get? [name] = some (.file content) := by
  intro name among
  simp only [stateFileNames, List.mem_cons, List.not_mem_nil, or_false] at among
  rcases among with rfl | rfl
  · exact ⟨by decide, _, rfl⟩
  · exact ⟨by decide, _, rfl⟩

theorem noLink_readyWorld : ∀ name ∈ stateFileNames,
    readyWorld.files.linkTarget? .root (rootConfig.stateDir.child name) = none := by
  intro name among
  obtain ⟨usable, content, there⟩ := stateFiles_readyWorld name among
  exact linkTarget?_of_file (find_atRoot usable there .entry) there

theorem writes_readyWorld :
    ∃ t', ∀ depth, Writes readyWorld.files .root depth rootConfig.lastUsedFile (Text.numeral 1000) t' := by
  obtain ⟨usable, content, there⟩ := stateFiles_readyWorld ".kiji-last-used" lastUsedName_mem
  obtain ⟨t', writes, -⟩ := exists_writes_atRoot readyWorld.files .root usable
    (fun node held => ⟨content, Option.some.inj (held.symm.trans there)⟩) (Text.numeral 1000)
  exact ⟨t', writes⟩

theorem idIn_readyWorld : idIn readyWorld.files .root rootConfig = some "abc" :=
  idIn_eq_some_iff.2 ready_readyWorld.idFile

theorem generates_readyRun : parse ["generate-uuid"] = .run .generateUuid .default := by cbv

theorem records_readyRun : parse ["record-usage"] = .run .recordUsage .default := by cbv

theorem areFor_readyRuns : List.Forall₂ Run.IsFor [readyRun "generate-uuid", readyRun "record-usage"]
    [.generate .zeros, .record 1000] :=
  .cons (.generate generates_readyRun (.inl rfl))
    (.cons (.record records_readyRun (.inl rfl) (by decide)) .nil)

/-- A run that finds an id and a run that records a time end well. -/
theorem succession_readyRuns : ∃ t', Succession .root readyWorld.accounts
    readyWorld.environment readyWorld.files [readyRun "generate-uuid", readyRun "record-usage"] t' := by
  obtain ⟨t', writes⟩ := writes_readyWorld
  have clock : (readyRun "generate-uuid").world.now.wholePart = .ok 1 := by decide
  have timed : ((readyRun "record-usage").world.now.scale 1000).wholePart = .ok 1000 := by decide
  obtain ⟨generated, same⟩ := exit_of_idIn (finds_readyRun "generate-uuid" readyWorld.files)
    generates_readyRun (.inl rfl) configured_readyWorld idIn_readyWorld clock
  obtain ⟨recorded, left⟩ := exit_of_writes (finds_readyRun "record-usage" readyWorld.files)
    records_readyRun (.inl rfl) configured_readyWorld timed (writes _)
  refine ⟨t', .cons (finds_readyRun _ _) generated ?_⟩
  rw [same]
  refine .cons (finds_readyRun _ _) recorded ?_
  rw [left]
  exact .nil

/-- The check-in after them tells the id that was there and the time that was recorded. -/
theorem checkin_after_readyRuns : ∃ t', Succession .root readyWorld.accounts
      readyWorld.environment readyWorld.files [readyRun "generate-uuid", readyRun "record-usage"] t' ∧
    ((readyRun "checkin").result t').1 = .exit 0 ∧
    ∃ m : Message, ((readyRun "checkin").result t').2.output = m.wire ++ "\n" ∧
      m.Tells readyWorld.platform "abc" 1000 "2.0.0" := by
  obtain ⟨t', succession⟩ := succession_readyRuns
  have asks : parse ["checkin"] = .run .checkin .default := by cbv
  obtain ⟨ended, m, printed, tells⟩ := checkin_after_runs configured_readyWorld noLink_readyWorld
    (.of_isDirectory (isDirectory_root _ _)) succession areFor_readyRuns rfl rfl (by decide)
    (finds_readyRun "checkin" t') asks (.inl rfl) (fun verbose => by cases verbose) ready_readyWorld.known
    ready_readyWorld.given
  refine ⟨t', succession, ended, m, printed, ?_⟩
  rw [idIn_readyWorld] at tells
  exact tells

end Checkin.Tool

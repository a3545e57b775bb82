import Checkin.Proofs.Builder.Outcome
import Checkin.Proofs.Config
import Checkin.Proofs.Message.WireForm
import Checkin.Proofs.Store.StateFile
import Checkin.Proofs.Tool.Commands

/-!
# Check-ins that are printed

A check-in is printed exactly when everything it is made of is there (`Ready`), and then as one line that is
read as a message with all of it. A run that ends in any other way prints nothing.
-/

namespace Checkin

open Checkin.Action Checkin.Text

/-! ## Messages of the live platform -/

/-- The platform tells something under each of its properties. -/
structure Platform.Known (p : Platform) : Prop where
  system : p.system ≠ ""
  release : p.release ≠ ""
  machine : p.machine ≠ ""
  runtimeVersion : p.runtimeVersion ≠ ""

/-- A message has these values in its fields, and besides them what the platform tells. -/
structure Message.Tells (m : Message) (p : Platform) (id : String) (lastUsed : Int) (version : String) :
    Prop where
  operatingSystem : m.operatingSystem.val = p.system ++ " " ++ p.release ++ " " ++ p.machine
  bentoVersion : m.bentoVersion.val = version
  javaVersion : m.javaVersion.val = p.runtimeVersion
  lastUsedMillis : m.lastUsedMillis.val = lastUsed
  id : m.id.val = id

namespace Builder

variable {s : Session} {id version : String} {lastUsed : Int}

theorem exists_build_live (known : s.world.platform.Known) (used : Version.inUse s = .ok version)
    (some : id ≠ "") (fits : minMillis ≤ lastUsed ∧ lastUsed ≤ maxMillis) :
    ∃ m, (exec (build ⟨.text id, .int lastUsed⟩ .live .current) s).1 = .ok m ∧
      m.Tells s.world.platform id lastUsed version := by
  have os := Properties.osText?_live_eq_some_iff.2 ⟨known.system, known.release, known.machine, rfl⟩
  have named := World.version?_ne_empty (Version.version?_of_inUse used)
  let m : Message := {
    operatingSystem := ⟨_, Properties.osText?_ne_empty os⟩
    bentoVersion := ⟨version, named⟩
    javaVersion := ⟨s.world.platform.runtimeVersion, known.runtimeVersion⟩
    lastUsedMillis := ⟨lastUsed, fits⟩
    id := ⟨id, some⟩ }
  have gathered : Gathered ⟨.text id, .int lastUsed⟩ .live .current s
      (s.world.platform.system ++ " " ++ s.world.platform.release ++ " " ++ s.world.platform.machine)
      (.text version) (.text s.world.platform.runtimeVersion) := {
    complete := ⟨by simpa [Value.isFalsy] using some, by simp⟩
    operatingSystem := os
    offered := by simp [Version.Source.offer, used, Functor.map, Except.map]
    truthy := by simpa [Value.isFalsy] using named
    runtimeVersion := Properties.found?_live_eq_some_iff.2
      ⟨_, (Properties.lookup_properties _).2.2.2, known.runtimeVersion, rfl⟩ }
  have outcome : Outcome ⟨.text id, .int lastUsed⟩ .live .current s (.ok m) :=
    .built gathered rfl (.text _) (.text _) rfl (.text _)
  exact ⟨m, outcome.fst_exec_build, ⟨rfl, rfl, rfl, rfl, rfl⟩⟩

/-- A message is built only on a platform that is known, of a version in use and a time that fits. -/
theorem of_build_live {m : Message}
    (built : (exec (build ⟨.text id, .int lastUsed⟩ .live .current) s).1 = .ok m) :
    s.world.platform.Known ∧ (∃ version, Version.inUse s = .ok version) ∧
      minMillis ≤ lastUsed ∧ lastUsed ≤ maxMillis := by
  obtain ⟨r, outcome⟩ := exists_outcome ⟨.text id, .int lastUsed⟩ .live .current s
  rw [outcome.fst_exec_build] at built
  subst built
  cases outcome with
  | built gathered os version runtime fits id =>
    obtain ⟨system, release, machine, -⟩ := Properties.osText?_live_eq_some_iff.1 gathered.operatingSystem
    obtain ⟨runtimeVersion, listed, runs, -⟩ := Properties.found?_live_eq_some_iff.1 gathered.runtimeVersion
    rw [(Properties.lookup_properties _).2.2.2, Option.some.injEq] at listed
    refine ⟨⟨system, release, machine, listed ▸ runs⟩, ?_, ?_⟩
    · have offered := gathered.offered
      cases used : Version.inUse s with
      | error failure => simp [Version.Source.offer, used, Functor.map, Except.map] at offered
      | ok version => exact ⟨version, rfl⟩
    · have same : lastUsed = m.lastUsedMillis := Value.int.inj fits
      exact same ▸ m.lastUsedMillis.property

end Builder

namespace Tool

open Checkin.CommandLine Store

variable {s s' : Session} {cfg : Config} {id version : String} {lastUsed : Int}

/-! ## What a check-in is made of -/

/-- Everything that a check-in is made of is there: a configuration, files with an id and with a time of
last use that fits, a platform that is known, and a version. -/
structure Ready (w : World) (cfg : Config) (id : String) (lastUsed : Int) (version : String) : Prop where
  configured : Config.load w.environment w.homes w.workingDirectory = .ok cfg
  idFile : ∃ octets, w.files.read w.workingDirectory cfg.idFile = .ok octets ∧ valueOf? octets = some id
  lastUsedFile : ∃ octets text, w.files.read w.workingDirectory cfg.lastUsedFile = .ok octets ∧
    valueOf? octets = some text ∧ readNumeral? text.toList = some lastUsed
  fits : minMillis ≤ lastUsed ∧ lastUsed ≤ maxMillis
  known : w.platform.Known
  given : w.version? = some version

theorem exists_checkinMessage (ready : Ready s.world cfg id lastUsed version)
    (clock : s.sink.shows .debug = true → ∃ second, s.world.now.wholePart = .ok second) :
    ∃ m, (exec checkinMessage s).1 = .ok m ∧ m.Tells s.world.platform id lastUsed version := by
  obtain ⟨configured, given, ⟨octets, text, there, valued, numeral⟩, fits, known, version⟩ := ready
  have read : readId s.world.files s.world.workingDirectory cfg.idFile = .ok id :=
    readValue_eq_ok_iff.2 given
  have readTime : readLastUsed s.world.files s.world.workingDirectory cfg.lastUsedFile = .ok lastUsed :=
    readLastUsed_eq_ok_iff.2 ⟨text, readValue_eq_ok_iff.2 ⟨octets, there, valued⟩, numeral⟩
  obtain ⟨octets', -, valued'⟩ := given
  obtain ⟨m, built, tells⟩ := Builder.exists_build_live known (Version.inUse_of_version? clock version)
    (valueOf?_ne_empty valued') fits
  refine ⟨m, ?_, tells⟩
  unfold checkinMessage
  rw [exec_bind, exec_config, configured]
  simp only [exec_bind, exec_world, exec_ofExcept, read, readTime]
  exact built

theorem exists_ready {m : Message} (made : (exec checkinMessage s).1 = .ok m) :
    ∃ cfg id lastUsed version, Ready s.world cfg id lastUsed version := by
  unfold checkinMessage at made
  rw [exec_bind, exec_config] at made
  cases configured : Config.load s.world.environment s.world.homes s.world.workingDirectory with
  | error failure => simp [configured] at made
  | ok cfg =>
    simp only [configured, exec_bind, exec_world, exec_ofExcept] at made
    cases read : readId s.world.files s.world.workingDirectory cfg.idFile with
    | error failure => simp [read] at made
    | ok id =>
      simp only [read] at made
      cases readTime : readLastUsed s.world.files s.world.workingDirectory cfg.lastUsedFile with
      | error failure => simp [readTime] at made
      | ok lastUsed =>
        simp only [readTime] at made
        obtain ⟨known, ⟨version, used⟩, fits⟩ := Builder.of_build_live made
        obtain ⟨text, value, numeral⟩ := readLastUsed_eq_ok_iff.1 readTime
        obtain ⟨octets, there, valued⟩ := readValue_eq_ok_iff.1 value
        exact ⟨cfg, id, lastUsed, version, {
          configured, fits, known
          idFile := readValue_eq_ok_iff.1 read
          lastUsedFile := ⟨octets, text, there, valued, numeral⟩
          given := Version.version?_of_inUse used }⟩

/-! ## What a run leaves alone until it prints -/

/-- A session has some output, and its clock shows some time. -/
structure Still (output : String) (now : Binary64) (s : Session) : Prop where
  output : s.output = output
  clock : s.world.now = now

namespace Still

variable {output : String} {now : Binary64}

theorem write (still : Still output now s) (r : Record) : Still output now (s.write r) := by
  refine ⟨by rw [Session.write_output, still.output], ?_⟩
  rw [Session.write_world]
  exact still.clock

theorem quiet : LogQuiet (Still output now) fun _ => True :=
  ⟨fun _ r _ still => still.write r, fun _ _ _ _ => trivial⟩

theorem prepare (program : Option Path) : Keeps (Still output now) (fun _ => True) (prepare program) :=
  quiet.prepare (fun _ _ still => ⟨still.output, still.clock⟩) program

end Still

/-! ## The whole run -/

section Run

variable {args : List String} {settings : Settings}

/-- What comes of a command line that asks for a check-in and names no log file. -/
theorem exec_respond_checkin (asks : parse args = .run .checkin settings)
    (unnamed : settings.logFile = none ∨ settings.logFile = some "") (s : Session) :
    (∃ m, (exec checkinMessage { s with sink := .standardError (threshold settings) }).1 = .ok m ∧
      (exec (respond args) s).1 = .ok 0 ∧ (exec (respond args) s).2.output = s.output ++ m.wire ++ "\n") ∨
    ((∀ m, (exec checkinMessage { s with sink := .standardError (threshold settings) }).1 ≠ .ok m) ∧
      (exec (respond args) s).1 ≠ .ok 0 ∧ (exec (respond args) s).2.output = s.output) := by
  let settled : Session := { s with sink := .standardError (threshold settings) }
  have still : Still s.output s.world.now settled := ⟨rfl, rfl⟩
  have kept := (Still.quiet.checkinMessage settled still).1
  have tried : exec (attempt .checkin settings) s = exec checkin settled := by
    rw [attempt, exec_bind_of_ok (exec_settleLog_of_unnamed unnamed s)]
    rfl
  rw [exec_respond_of_run asks]
  rw [checkin_eq, exec_bind] at tried
  cases made : exec checkinMessage settled with
  | mk result s' =>
    rw [made] at kept tried
    cases result with
    | ok m =>
      rw [exec_runCommand_of_ok tried]
      refine .inl ⟨m, rfl, rfl, ?_⟩
      show s'.output ++ m.wire ++ "\n" = _
      rw [kept.output]
    | error failure =>
      refine .inr ⟨by simp, ?_⟩
      rw [exec_runCommand_of_error tried]
      split
      · rcases exec_log_cases .error logger (failureLine .checkin failure) s' with
          hidden | shown | ⟨cause, -, failed⟩
        · rw [hidden]
          exact ⟨by simp, kept.output⟩
        · rw [shown]
          exact ⟨by simp, (kept.write _).output⟩
        · rw [failed]
          exact ⟨by simp, kept.output⟩
      · exact ⟨by simp, kept.output⟩

theorem shows_debug_iff :
    (Sink.standardError (threshold settings)).shows .debug = true ↔ settings.verbose = true := by
  cases verbose : settings.verbose <;> simp [Sink.shows, Sink.threshold, threshold, verbose, Level.rank]

theorem exec_respond_checkin_of_ready (asks : parse args = .run .checkin settings)
    (unnamed : settings.logFile = none ∨ settings.logFile = some "")
    (timed : settings.verbose = true → ∃ second, s.world.now.wholePart = .ok second)
    (ready : Ready s.world cfg id lastUsed version) :
    (exec (respond args) s).1 = .ok 0 ∧
      ∃ m : Message, (exec (respond args) s).2.output = s.output ++ m.wire ++ "\n" ∧
        m.Tells s.world.platform id lastUsed version := by
  let settled : Session := { s with sink := .standardError (threshold settings) }
  have settledReady : Ready settled.world cfg id lastUsed version := ready
  obtain ⟨m, made, tells⟩ := exists_checkinMessage settledReady fun shown => timed (shows_debug_iff.1 shown)
  rcases exec_respond_checkin asks unnamed s with ⟨m', made', ended, printed⟩ | ⟨unmade, -, -⟩
  · cases made.symm.trans made'
    exact ⟨ended, m, printed, tells⟩
  · exact absurd made (unmade m)

theorem exec_respond_checkin_of_not_ready (asks : parse args = .run .checkin settings)
    (unnamed : settings.logFile = none ∨ settings.logFile = some "")
    (unready : ¬ ∃ cfg id lastUsed version, Ready s.world cfg id lastUsed version) :
    (exec (respond args) s).1 ≠ .ok 0 ∧ (exec (respond args) s).2.output = s.output := by
  rcases exec_respond_checkin asks unnamed s with ⟨m, made, -, -⟩ | ⟨-, ended, printed⟩
  · exact absurd (exists_ready made) unready
  · exact ⟨ended, printed⟩

theorem endingOf_eq_exit_iff {result : Except Failure Nat} {code : Nat} :
    endingOf result = .exit code ↔ result = .ok code := by
  cases result <;> simp [endingOf]

/-- A check-in without a log file ends with exit code 0 if and only if everything it is made of is there
once the environment file is loaded. Then it prints one line, which is read as a message with all of it; in
any other case it prints nothing. A verbose run needs the time besides, since it logs where the version is
from. -/
theorem run_checkin {program : Option Path} {w : World} {sink : Sink}
    (asks : parse args = .run .checkin settings)
    (unnamed : settings.logFile = none ∨ settings.logFile = some "")
    (timed : settings.verbose = true → ∃ second, w.now.wholePart = .ok second) :
    (((run program args).run (.start w sink)).1 = .exit 0 ↔
      ∃ s cfg id lastUsed version, exec (prepare program) (.start w sink) = (.ok (), s) ∧
        Ready s.world cfg id lastUsed version) ∧
    (∀ s cfg id lastUsed version, exec (prepare program) (.start w sink) = (.ok (), s) →
      Ready s.world cfg id lastUsed version →
      ∃ line m, ((run program args).run (.start w sink)).2.output = line ++ "\n" ∧ '\n' ∉ line.toList ∧
        Message.read line = .ok m ∧ m.Tells s.world.platform id lastUsed version) ∧
    (((run program args).run (.start w sink)).1 ≠ .exit 0 →
      ((run program args).run (.start w sink)).2.output = "") := by
  have still : Still "" w.now (exec (prepare program) (.start w sink)).2 :=
    (Still.prepare program (.start w sink) ⟨rfl, rfl⟩).1
  rw [run_eq, exec_start, exec_bind]
  simp only [endingOf_eq_exit_iff, ne_eq]
  cases prepared : exec (prepare program) (.start w sink) with
  | mk result s =>
    rw [prepared] at still
    cases result with
    | error failure => exact ⟨by simp, by simp, fun _ => still.output⟩
    | ok done =>
      rw [← still.clock] at timed
      by_cases ready : ∃ cfg id lastUsed version, Ready s.world cfg id lastUsed version
      · refine ⟨⟨fun _ => ?_, fun _ => ?_⟩, ?_, fun other => ?_⟩
        · obtain ⟨cfg, id, lastUsed, version, ready⟩ := ready
          exact ⟨s, cfg, id, lastUsed, version, rfl, ready⟩
        · obtain ⟨cfg, id, lastUsed, version, ready⟩ := ready
          exact (exec_respond_checkin_of_ready asks unnamed timed ready).1
        · rintro _ cfg id lastUsed version ⟨⟩ ready
          obtain ⟨-, m, printed, tells⟩ := exec_respond_checkin_of_ready asks unnamed timed ready
          refine ⟨m.wire, m, ?_, ?_, Message.read_wire m, tells⟩
          · show (exec (respond args) s).2.output = _
            rw [printed, still.output, String.empty_append]
          · intro inside
            exact absurd (Message.le_toNat_of_mem_wire inside) (by decide)
        · obtain ⟨cfg, id, lastUsed, version, ready⟩ := ready
          exact absurd (exec_respond_checkin_of_ready asks unnamed timed ready).1 other
      · obtain ⟨ended, printed⟩ := exec_respond_checkin_of_not_ready asks unnamed ready
        refine ⟨⟨fun ended' => absurd ended' ended, ?_⟩, ?_, fun _ => ?_⟩
        · rintro ⟨_, cfg, id, lastUsed, version, ⟨⟩, here⟩
          exact absurd ⟨cfg, id, lastUsed, version, here⟩ ready
        · rintro _ cfg id lastUsed version ⟨⟩ here
          exact absurd ⟨cfg, id, lastUsed, version, here⟩ ready
        · show (exec (respond args) s).2.output = _
          rw [printed, still.output]

end Run

/-- A world with an id and a time of last use in files at the root, on a platform that is known. -/
def readyWorld : World :=
  { (default : World) with
    files := (FileTree.empty.set [".kiji-bento-uuid"] (.file [0x61, 0x62, 0x63])).set [".kiji-last-used"]
      (.file [0x31, 0x32])
    environment := ⟨[("KIJI_BENTO_STATE_DIR", "/"), ("KIJI_BENTO_VERSION", "2.0.0")]⟩
    accounts := twoHomes
    platform := ⟨"Linux", "5.10", "x86_64", "3.11.2"⟩ }

theorem ready_readyWorld : Ready readyWorld ⟨⟨.absolute, []⟩, ⟨.absolute, []⟩⟩ "abc" 12 "2.0.0" := by
  exact {
    configured := by rfl
    idFile := ⟨[0x61, 0x62, 0x63], FileTree.read_root (by decide) rfl, by rfl⟩
    lastUsedFile := ⟨[0x31, 0x32], "12", FileTree.read_root (by decide) rfl, by rfl, by rfl⟩
    fits := by decide
    known := ⟨by decide, by decide, by decide, by decide⟩
    given := by rfl }

/-- There, the check-in is printed. -/
theorem run_checkin_readyWorld :
    ((run none ["checkin"]).run (.start readyWorld .unsettled)).1 = .exit 0 ∧
    ∃ line m, ((run none ["checkin"]).run (.start readyWorld .unsettled)).2.output = line ++ "\n" ∧
      '\n' ∉ line.toList ∧ Message.read line = .ok m ∧ m.Tells readyWorld.platform "abc" 12 "2.0.0" := by
  have asks : parse ["checkin"] = .run .checkin .default := by cbv
  obtain ⟨succeeds, prints, -⟩ := @run_checkin _ _ none readyWorld .unsettled asks (.inl rfl)
    fun verbose => by cases verbose
  exact ⟨succeeds.2 ⟨_, _, _, _, _, rfl, ready_readyWorld⟩, prints _ _ _ _ _ rfl ready_readyWorld⟩

end Tool

end Checkin

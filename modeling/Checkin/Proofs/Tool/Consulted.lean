import Checkin.Proofs.Tool.Failures
import Checkin.Proofs.Tool.LogOptions
import Checkin.Proofs.Tool.Spellings

/-!
# Variables that a run does not see

Where no environment file is in reach, a run looks at a few variables only, and its command says at which ones
(`consulted`). All others may be set to anything: the run ends alike, prints and logs the same, and leaves the
same files.
-/

namespace Checkin.Tool

open Checkin.Action Checkin.CommandLine

variable {program : Option Path} {w : World} {args : List String} {command : Command} {settings : Settings}

/-- The variables that the configuration depends on. -/
def configuring : List String :=
  [homeVariable, kijiHomeVariable, stateDirVariable]

/-- The variables that a command looks at. It does without the configuration if it is given a distribution's
root. -/
def consulted (command : Command) (settings : Settings) : List String :=
  match command with
  | .generateUuid | .recordUsage => configuring
  | .checkin => versionVariable :: configuring
  | .env => "PATH" :: if settings.kijiHome = none ∨ settings.kijiHome = some "" then configuring else []

theorem configures_of_configuring {known : String → Prop} (all : ∀ name ∈ configuring, known name) :
    Configures known :=
  ⟨all _ (by simp [configuring]), all _ (by simp [configuring]), all _ (by simp [configuring])⟩

theorem consults_of_consulted {known : String → Prop}
    (all : ∀ name ∈ consulted command settings, known name) : Consults known command settings := by
  refine ⟨fun needed => configures_of_configuring fun name member => all name ?_, ?_, ?_⟩
  · cases command with
    | generateUuid => exact member
    | recordUsage => exact member
    | checkin => exact List.mem_cons_of_mem _ member
    | env =>
      rw [consulted, if_pos (needed.resolve_left (by simp))]
      exact List.mem_cons_of_mem _ member
  · rintro rfl
    exact all _ List.mem_cons_self
  · rintro rfl
    exact all _ List.mem_cons_self

/-- No environment file is where the program looks for one. -/
def NoFileInReach (program : Option Path) (w : World) : Prop :=
  ∀ p, program = some p →
    EnvironmentFile.locate? w.files w.workingDirectory p.normal.parent.names = none

/-- Without an environment file, what comes before the arguments says and changes nothing, and it goes the same
way in every environment. -/
theorem exec_prepare_of_noFile (noFile : NoFileInReach program w) :
    ∃ result, ∀ environment, exec (prepare program) (.start { w with environment } .unsettled) =
      (result, .start { w with environment } .unsettled) := by
  cases program with
  | none => exact ⟨.ok (), fun _ => rfl⟩
  | some p =>
    cases read : w.files.read w.workingDirectory p.normal with
    | error fault =>
      refine ⟨.error (.system fault (some p.normal.text)), fun environment => ?_⟩
      refine exec_bind_of_error ?_ _
      unfold openProgram
      rw [exec_bind_of_ok (exec_world _)]
      show exec (discard (onPath p.normal (w.files.read w.workingDirectory p.normal)) >>= _) _ = _
      rw [read]
      rfl
    | ok content =>
      refine ⟨.ok (), fun environment => ?_⟩
      have opened := exec_openProgram_of_read (s := .start { w with environment } .unsettled) p read
      show exec (openProgram p >>= loadEnvironmentFile) _ = _
      rw [exec_bind_of_ok opened]
      cases disabled : EnvironmentFile.isDisabled environment with
      | true => exact exec_loadEnvironmentFile_of_disabled disabled
      | false =>
        unfold loadEnvironmentFile
        rw [exec_bind_of_ok (exec_world _)]
        simp only [Session.start, disabled, noFile p rfl]
        rfl

/-- Two runs end alike, print the same, log the same, and leave the same files. -/
structure Indistinct (one other : Ending × Session) : Prop where
  ending : other.1 = one.1
  output : other.2.output = one.2.output
  journal : other.2.journal = one.2.journal
  files : other.2.world.files = one.2.world.files

/-- Without an environment file in reach, a run of a command is the same in every environment that gives the
same values to the variables that are consulted. -/
theorem outcome_of_consulted (noFile : NoFileInReach program w) (asks : parse args = .run command settings)
    {environment : Environment}
    (agree : ∀ name ∈ consulted command settings, environment.get? name = w.environment.get? name) :
    Indistinct (outcome program w args) (outcome program { w with environment } args) := by
  obtain ⟨result, prepares⟩ := exec_prepare_of_noFile noFile
  have plain : exec (prepare program) (.start w .unsettled) = (result, .start w .unsettled) :=
    prepares w.environment
  have other := prepares environment
  cases result with
  | error failure =>
    rw [outcome_of_failed plain, outcome_of_failed other]
    exact ⟨rfl, rfl, rfl, rfl⟩
  | ok done =>
    have alike : Alike ⟨environment, [], ""⟩ (fun name => environment.get? name = w.environment.get? name)
        (.start { w with environment } .unsettled) (.start w .unsettled) :=
      .intro (.start w .unsettled) fun _ same => same
    obtain ⟨same, left⟩ := alike_runCommand (consults_of_consulted agree) _ _ alike
    rw [outcome_of_prepared plain asks, outcome_of_prepared other asks]
    refine ⟨congrArg endingOf same, ?_, ?_, ?_⟩
    all_goals
      rw [left.eq_within]
      rfl

/-- The ready world with a program at its root. -/
def installedWorld : World :=
  { readyWorld with files := readyWorld.files.set ["main.py"] (.file []) }

theorem noFileInReach_installedWorld : NoFileInReach (some ⟨.absolute, ["main.py"]⟩) installedWorld := by
  rintro _ ⟨⟩
  exact locate?_atRoot_of_none (by rfl)

/-- An environment that has the state files in the home directory of somebody who has no account. -/
def foreignEnvironment : Environment := ⟨[(stateDirVariable, "~no_such_account")]⟩

/-- There, a check-in does not look at the language, and `env` does not look for the state files of a root
that is given. -/
theorem outcome_of_consulted_installedWorld :
    Indistinct (outcome (some ⟨.absolute, ["main.py"]⟩) installedWorld ["checkin"])
      (outcome (some ⟨.absolute, ["main.py"]⟩)
        { installedWorld with environment := installedWorld.environment.set "LANG" "C" } ["checkin"]) ∧
    Indistinct (outcome (some ⟨.absolute, ["main.py"]⟩) installedWorld ["env", "--kiji-home=/k"])
      (outcome (some ⟨.absolute, ["main.py"]⟩)
        { installedWorld with environment := foreignEnvironment } ["env", "--kiji-home=/k"]) := by
  have noFile := noFileInReach_installedWorld
  have asks : parse ["checkin"] = .run .checkin .default := by cbv
  refine ⟨outcome_of_consulted noFile asks ?_, outcome_of_consulted noFile (parse_kijiHome "/k") ?_⟩
  · decide
  · decide

/-! ## The mark for a root -/

/-- The mark is not passed on as a root, so that the directory of the state files shows. -/
theorem env_mark_distinct :
    NoFileInReach none markedWorld ∧
    (∀ name, name ≠ stateDirVariable →
      foreignEnvironment.get? name = markedWorld.environment.get? name) ∧
    ¬ Indistinct (outcome none markedWorld ["env", "--kiji-home=--"])
      (outcome none { markedWorld with environment := foreignEnvironment }
        ["env", "--kiji-home=--"]) := by
  refine ⟨fun _ program => (by cases program), fun name other => ?_, fun indistinct => ?_⟩
  · have unequal : (name == stateDirVariable) = false := by simpa using other
    simp only [foreignEnvironment, Environment.get?, List.lookup_cons, unequal]
    rfl
  · have clock : markedWorld.now.wholePart = .ok 0 := by cbv
    have ended : (outcome none markedWorld ["env", "--kiji-home=--"]).1 = .exit 0 :=
      (congrArg Prod.fst envRun_mark_marked).trans (exportRun_of_found clock found_marked).1
    have failed : (exec config (.start { markedWorld with environment := foreignEnvironment } .unsettled)).1 =
        .error .noHome := by rfl
    have done : exec (prepare none) (.start { markedWorld with environment := foreignEnvironment } .unsettled) =
        (.ok (), .start { markedWorld with environment := foreignEnvironment } .unsettled) := rfl
    have escaped :=
      outcome_of_config done (parse_kijiHome "--") (.inr (.inr rfl)) (.inl rfl) failed rfl
    rw [indistinct.ending.symm.trans (congrArg Prod.fst escaped)] at ended
    cases ended

end Checkin.Tool

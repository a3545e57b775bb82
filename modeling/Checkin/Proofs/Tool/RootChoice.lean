import Checkin.Proofs.Tool.Consulted

/-!
# The root by an option or by a variable

`env` is given the root of its distribution by an option or, without the option, by a variable. A text that
can be given both ways has the same answer. The variable is part of the configuration, though: it does not do
without a directory for the state files, its path may start in a home directory, and an environment file may
refer to it.
-/

namespace Checkin.Tool

open Checkin.Action Checkin.CommandLine Checkin.FileTree Checkin.ShellEnvironment

variable {program : Option Path} {w : World} {text : String} {c c' : Setting} {known : String → Prop}
  {s : Session} {cfg : Config} {l : Location} {failure : Failure} {second : Int}

/-- A world in which the variable for the root is set to a text. -/
def rootedBy (w : World) (text : String) : World :=
  { w with environment := w.environment.set kijiHomeVariable text }

/-- A run of `env` that is not given a root, where the variable for it is set to a text. -/
def variableRun (program : Option Path) (w : World) (text : String) : Ending × Session :=
  outcome program (rootedBy w text) ["env"]

/-- Two runs end alike and print the same. -/
structure SameAnswer (one other : Ending × Session) : Prop where
  ending : other.1 = one.1
  output : other.2.output = one.2.output

/-- Whether the variable for the root is set to a text or not, the program and its environment file are loaded
with the same result, and there is the same path for programs afterwards. -/
structure LoadsAlike (program : Option Path) (w : World) (text : String) : Prop where
  result : (exec (prepare program) (.start (rootedBy w text) .unsettled)).1 =
    (exec (prepare program) (.start w .unsettled)).1
  path : (prepared program (rootedBy w text)).world.environment.get? "PATH" =
    (prepared program w).world.environment.get? "PATH"

theorem prepared_of_noFile (noFile : NoFileInReach program w) :
    prepared program w = .start w .unsettled := by
  obtain ⟨result, prepares⟩ := exec_prepare_of_noFile noFile
  exact congrArg Prod.snd (prepares w.environment)

theorem loadsAlike_of_noFile (noFile : NoFileInReach program w) (text : String) :
    LoadsAlike program w text := by
  obtain ⟨result, prepares⟩ := exec_prepare_of_noFile noFile
  have rooted : (exec (prepare program) (.start (rootedBy w text) .unsettled)).1 = result :=
    congrArg Prod.fst (prepares (rootedBy w text).environment)
  have plain : (exec (prepare program) (.start w .unsettled)).1 = result :=
    congrArg Prod.fst (prepares w.environment)
  refine ⟨rooted.trans plain.symm, ?_⟩
  have noFile' : NoFileInReach program (rootedBy w text) := noFile
  rw [prepared_of_noFile noFile, prepared_of_noFile noFile']
  exact (Environment.get?_set _ _ _ _).trans (if_neg (by decide))

/-- Once the environment file is loaded, there is no directory for the state files. -/
def LacksStateDir (program : Option Path) (w : World) (failure : Failure) : Prop :=
  (exec (prepare program) (.start w .unsettled)).1 = .ok () ∧
    Config.chosenStateDir (prepared program w).world.environment (prepared program w).world.homes =
      .error failure

/-! ## Looking for the root by a path -/

theorem alike_exportingFrom (path : known "PATH") (p : Path) :
    Agrees (Alike c known) (exportingFrom p) (exportingFrom p) :=
  carries_reporting alike_log .env
    ((alike_settleLog .default).bind fun _ => alike_likeness.exportRoot alike_explores path p)

/-- Of the environment, only the path for programs shows in what comes of a root. -/
theorem exec_exportingFrom_within
    (path : (s.within c').world.environment.get? "PATH" = (s.within c).world.environment.get? "PATH")
    (p : Path) :
    (exec (exportingFrom p) (s.within c')).1 = (exec (exportingFrom p) (s.within c)).1 ∧
      (exec (exportingFrom p) (s.within c')).2.output = (exec (exportingFrom p) (s.within c)).2.output := by
  -- both are compared with the session that has the first environment and nothing said before
  have base : Alike c (· = "PATH") (s.within c)
      { s with world := { s.world with environment := c.environment } } :=
    .intro { s with world := { s.world with environment := c.environment } } fun _ _ => rfl
  have base' : Alike c' (· = "PATH") (s.within c')
      { s with world := { s.world with environment := c.environment } } :=
    .intro { s with world := { s.world with environment := c.environment } } (by rintro _ rfl; exact path)
  obtain ⟨result, left⟩ := alike_exportingFrom (by exact rfl) p _ _ base
  obtain ⟨result', left'⟩ := alike_exportingFrom (by exact rfl) p _ _ base'
  refine ⟨result'.trans result.symm, ?_⟩
  rw [left.eq_within, left'.eq_within]
  rfl

/-- Once the environment file is loaded, a run that is given a root looks for it by the path of its text. -/
theorem envRun_of_prepared (done : exec (prepare program) (.start w .unsettled) = (.ok (), s))
    (given : IsGiven text) :
    envRun program w text = (endingOf (exec (exportingFrom (.ofText text)) s).1,
      closing w.environment (exec (exportingFrom (.ofText text)) s).2) := by
  have looks := exec_respond_of_chosen (s := s) (parse_kijiHome text) rfl rfl fun _ => given.exec_chosenRoot _
  rw [envRun, run_eq, exec_start, exec_bind_of_ok done, looks]
  rfl

theorem parse_env : parse ["env"] = .run .env .default := by cbv

/-- And one that is not given a root looks for it by the path in the configuration. -/
theorem outcome_env_of_prepared (done : exec (prepare program) (.start w .unsettled) = (.ok (), s))
    (configured : (exec config s).1 = .ok cfg) :
    outcome program w ["env"] = (endingOf (exec (exportingFrom cfg.kijiHome) s).1,
      closing w.environment (exec (exportingFrom cfg.kijiHome) s).2) := by
  have looks := exec_respond_of_chosen (s := s) (p := cfg.kijiHome) parse_env rfl rfl fun sink => by
    rw [exec_config] at configured
    show exec (Config.kijiHome <$> config) _ = _
    rw [exec_map, exec_config]
    exact congrArg (Except.map _ · , _) configured
  rw [outcome, run_eq, exec_start, exec_bind_of_ok done, looks]
  rfl

/-- The configuration has the root that the variable is set to, if there is a directory for the state files.
-/
theorem config_of_rooted (done : exec (prepare program) (.start (rootedBy w text) .unsettled) = (.ok (), s))
    (given : IsGiven text) (plain : ¬Config.StartsInHome (.ofText text)) :
    (exec config s).1 = (Config.chosenStateDir s.world.environment s.world.homes).map fun stateDir =>
        { kijiHome := .ofText text, stateDir } := by
  obtain ⟨environment, rfl, keeps⟩ := exists_of_prepared done
  have set : (rootedBy w text).environment.get? kijiHomeVariable = some text :=
    (Environment.get?_set _ _ _ _).trans (if_pos (by simp))
  rw [exec_config]
  exact Config.load_of_kijiHome (keeps _ _ set) given.notEmpty plain

/-! ## Both ways -/

/-- Nothing is printed before the arguments are looked at. -/
theorem output_of_prepare {result : Except Failure Unit}
    (ran : exec (prepare program) (.start w .unsettled) = (result, s)) : s.output = "" := by
  obtain ⟨_, s', ran', -, silent, -⟩ := run_cases program [] w
  rw [ran] at ran'
  cases ran'
  exact silent

theorem sameAnswer_of_failed {s' : Session}
    (failed : exec (prepare program) (.start w .unsettled) = (.error failure, s))
    (failed' : exec (prepare program) (.start (rootedBy w text) .unsettled) = (.error failure, s')) :
    SameAnswer (envRun program w text) (variableRun program w text) := by
  have ended := outcome_of_failed failed ["env", "--kiji-home=" ++ text]
  have ended' := outcome_of_failed failed' ["env"]
  rw [variableRun, ended']
  rw [outcome] at ended
  rw [envRun, ended]
  exact ⟨rfl, (output_of_prepare failed').trans (output_of_prepare failed).symm⟩

theorem sameAnswer_of_configured {s' : Session} (given : IsGiven text)
    (done : exec (prepare program) (.start w .unsettled) = (.ok (), s))
    (done' : exec (prepare program) (.start (rootedBy w text) .unsettled) = (.ok (), s'))
    (path : s'.world.environment.get? "PATH" = s.world.environment.get? "PATH")
    (configured : (exec config s').1 = .ok cfg) (root : cfg.kijiHome = .ofText text) :
    SameAnswer (envRun program w text) (variableRun program w text) := by
  rw [envRun_of_prepared done given, variableRun, outcome_env_of_prepared done' configured, root]
  obtain ⟨environment, rfl, -⟩ := exists_of_prepared done
  obtain ⟨environment', rfl, -⟩ := exists_of_prepared done'
  have sameStart (c : Setting) :
      (Session.start (rootedBy w text) .unsettled).within c = (Session.start w .unsettled).within c := rfl
  rw [sameStart] at path ⊢
  obtain ⟨result, output⟩ := exec_exportingFrom_within path (.ofText text)
  constructor
  · exact congrArg endingOf result
  · dsimp only [closing]
    exact output

theorem variableRun_of_lacksStateDir (given : IsGiven text) (plain : ¬Config.StartsInHome (.ofText text))
    (lacks : LacksStateDir program (rootedBy w text) failure) :
    (variableRun program w text).1 = .escape failure ∧ (variableRun program w text).2.output = "" := by
  obtain ⟨loaded, unplaced⟩ := lacks
  have done : exec (prepare program) (.start (rootedBy w text) .unsettled) =
      (.ok (), prepared program (rootedBy w text)) := Prod.ext loaded rfl
  have configured := config_of_rooted done given plain
  rw [unplaced] at configured
  have unreported : failure.isReported = false := by
    rcases Config.chosenStateDir_failure unplaced with rfl | rfl <;> rfl
  have silent : (prepared program (rootedBy w text)).output = "" := output_of_prepare done
  rw [variableRun, outcome_of_config done parse_env (.inr (.inl rfl)) (.inl rfl) configured unreported]
  exact ⟨rfl, silent⟩

theorem sameAnswer_of_placed (given : IsGiven text) (plain : ¬Config.StartsInHome (.ofText text))
    (loads : LoadsAlike program w text)
    (placed : ∀ failure, ¬LacksStateDir program (rootedBy w text) failure) :
    SameAnswer (envRun program w text) (variableRun program w text) := by
  obtain ⟨result, path⟩ := loads
  cases loaded : (exec (prepare program) (.start w .unsettled)).1 with
  | error failure => exact sameAnswer_of_failed (Prod.ext loaded rfl) (Prod.ext (result.trans loaded) rfl)
  | ok =>
    have done' : exec (prepare program) (.start (rootedBy w text) .unsettled) =
        (.ok (), prepared program (rootedBy w text)) := Prod.ext (result.trans loaded) rfl
    have configured := config_of_rooted done' given plain
    cases chosen : Config.chosenStateDir (prepared program (rootedBy w text)).world.environment
        (prepared program (rootedBy w text)).world.homes with
    | error failure => exact absurd ⟨result.trans loaded, chosen⟩ (placed failure)
    | ok stateDir =>
      rw [chosen] at configured
      exact sameAnswer_of_configured given (Prod.ext loaded rfl) done' path configured rfl

/-- If an environment file is loaded alike, a text has the same answer by the variable as by the option, or
there is no directory for the state files and the run by the variable fails for that. -/
theorem env_by_variable (given : IsGiven text) (plain : ¬Config.StartsInHome (.ofText text))
    (loads : LoadsAlike program w text) :
    (∀ failure, LacksStateDir program (rootedBy w text) failure →
      (variableRun program w text).1 = .escape failure ∧ (variableRun program w text).2.output = "") ∧
    ((∀ failure, ¬LacksStateDir program (rootedBy w text) failure) →
      SameAnswer (envRun program w text) (variableRun program w text)) :=
  ⟨fun _ lacks => variableRun_of_lacksStateDir given plain lacks,
    fun placed => sameAnswer_of_placed given plain loads placed⟩

/-- In the installed world, `/k` has the same answer both ways. With the state files in the home directory of
somebody who has no account, it has none by the variable. -/
theorem env_by_variable_installedWorld :
    SameAnswer (envRun (some ⟨.absolute, ["main.py"]⟩) installedWorld "/k")
      (variableRun (some ⟨.absolute, ["main.py"]⟩) installedWorld "/k") ∧
    (variableRun none { installedWorld with environment := foreignEnvironment } "/k").1 =
      .escape .noHome := by
  have given : IsGiven "/k" := ⟨by decide, by decide⟩
  have noFile := noFileInReach_installedWorld
  have noFile' : NoFileInReach none { installedWorld with environment := foreignEnvironment } :=
    fun _ program => by cases program
  refine ⟨(env_by_variable given (by decide) (loadsAlike_of_noFile noFile "/k")).2 ?_,
    ((env_by_variable given (by decide) (loadsAlike_of_noFile noFile' "/k")).1 .noHome ⟨rfl, by rfl⟩).1⟩
  rintro failure ⟨-, lacks⟩
  have noFile' : NoFileInReach (some ⟨.absolute, ["main.py"]⟩) (rootedBy installedWorld "/k") := noFile
  rw [prepared_of_noFile noFile'] at lacks
  cases lacks

/-! ## Where the answers differ -/

/-- While the clock shows a time, the directory that the configuration gives is exported as it is if it has
nothing for the cluster. -/
theorem outcome_env_of_absent (proper : Proper w.files) (standing : Standing w.files ⟨l, 0⟩)
    (configured : (exec config (.start w .unsettled)).1 = .ok cfg)
    (root : rootIn w.files w.workingDirectory w.linkDepth cfg.kijiHome = .ok ⟨.absolute, l⟩)
    (clock : w.now.wholePart = .ok second) (absent : w.files.get? (l ++ ["cluster"]) = none)
    (short : (⟨.absolute, l ++ ["cluster", "lib"]⟩ : Path).text.utf8ByteSize ≤ maxPathSize) :
    (outcome none w ["env"]).1 = .exit 0 ∧ (outcome none w ["env"]).2.output =
      exportLines (exportsFor ⟨.absolute, l⟩ none none ((w.environment.get? "PATH").getD "")) ++ "\n" := by
  have exported := exportRun_of_found clock (found_of_absent proper standing absent short)
  rw [exportRun_none] at exported
  have root' : rootIn (Session.start w .unsettled).world.files
      (Session.start w .unsettled).world.workingDirectory (Session.start w .unsettled).world.linkDepth
      cfg.kijiHome = .ok ⟨.absolute, l⟩ := root
  rw [outcome_env_of_prepared rfl configured, exec_exportingFrom root']
  exact exported

/-- The option drops the mark. -/
theorem not_sameAnswer_marked :
    ¬SameAnswer (envRun none markedWorld "--") (variableRun none markedWorld "--") := by
  intro same
  have clock : markedWorld.now.wholePart = .ok 0 := by cbv
  have standing : Standing markedWorld.files ⟨["--"], 0⟩ := ((standing_root _).child "--").standing (by cbv)
  have root : rootIn markedWorld.files markedWorld.workingDirectory markedWorld.linkDepth (.ofText "--") =
      .ok ⟨.absolute, ["--"]⟩ :=
    rootIn_of_resolve proper_marked standing (by cbv)
  have configured : (exec config (.start (rootedBy markedWorld "--") .unsettled)).1 =
      .ok ⟨.ofText "--", ⟨.absolute, [".kiji"]⟩⟩ := by rfl
  obtain ⟨-, printed⟩ := outcome_env_of_absent (w := rootedBy markedWorld "--") proper_marked standing
    configured root clock (by cbv) (by decide)
  have byOption : (envRun none markedWorld "--").2.output = _ :=
    (congrArg (·.2.output) envRun_mark_marked).trans (exportRun_of_found clock found_marked).2
  have equal := printed.symm.trans (same.output.trans byOption)
  revert equal
  decide

/-- A world with a directory that has a tilde for a name. -/
def tildeWorld : World :=
  { (default : World) with
    files := FileTree.empty.set ["~"] .directory
    accounts := twoHomes }

/-- The variable takes a tilde for the home directory. -/
theorem not_sameAnswer_tilde :
    ¬SameAnswer (envRun none tildeWorld "~") (variableRun none tildeWorld "~") := by
  intro same
  have proper : Proper tildeWorld.files := proper_empty.set (by simp) (by decide) (by simp)
  have clock : tildeWorld.now.wholePart = .ok 0 := by cbv
  have standing : Standing tildeWorld.files ⟨["~"], 0⟩ := ((standing_root _).child "~").standing (by cbv)
  have root : rootIn tildeWorld.files tildeWorld.workingDirectory tildeWorld.linkDepth (.ofText "~") =
      .ok ⟨.absolute, ["~"]⟩ :=
    rootIn_of_resolve proper standing (by cbv)
  obtain ⟨-, byOption⟩ :=
    envRun_of_absent proper ⟨by decide, by decide⟩ standing root clock (by cbv) (by decide)
  have configured : (exec config (.start (rootedBy tildeWorld "~") .unsettled)).1 =
      .ok ⟨⟨.absolute, []⟩, ⟨.absolute, [".kiji"]⟩⟩ := by rfl
  obtain ⟨-, byVariable⟩ := outcome_env_of_absent (w := rootedBy tildeWorld "~") proper (standing_root _)
    configured (rootIn_root proper _) clock (by cbv) (by decide)
  have equal := byVariable.symm.trans (same.output.trans byOption)
  revert equal
  decide

/-- The variable does not do without a directory for the state files. -/
theorem not_sameAnswer_foreign :
    ¬SameAnswer (envRun none { markedWorld with environment := foreignEnvironment } "/")
      (variableRun none { markedWorld with environment := foreignEnvironment } "/") := by
  intro same
  have given : IsGiven "/" := ⟨by decide, by decide⟩
  have clock : markedWorld.now.wholePart = .ok 0 := by cbv
  obtain ⟨ended, -⟩ := envRun_of_absent (w := { markedWorld with environment := foreignEnvironment })
    proper_marked given (standing_root _) (rootIn_root proper_marked _) clock (by cbv) (by decide)
  have lacks : LacksStateDir none (rootedBy { markedWorld with environment := foreignEnvironment } "/")
      .noHome := ⟨rfl, by rfl⟩
  have escaped := (variableRun_of_lacksStateDir given (by decide) lacks).1
  cases escaped.symm.trans (same.ending.trans ended)

/-- With an environment file at the root, a run of the program there has the answer of a run without it, in
the environment that comes of binding what the file binds. -/
theorem outcome_of_file {content : String} {environment merged : Environment}
    (opened : w.files.get? ["main.py"] = some (.file []))
    (there : w.files.get? [".env"] = some (.file (Text.encode content)))
    (reads : Store.readText w.files w.workingDirectory ⟨.absolute, [".env"]⟩ = .ok content)
    (enabled : EnvironmentFile.isDisabled environment = false)
    (bound : (w.grammar.bindings environment content).foldlM EnvironmentFile.bind environment =
      .ok merged)
    (clock : w.now.wholePart = .ok second) (args : List String) :
    SameAnswer (outcome none { w with environment := merged } args)
      (outcome (some ⟨.absolute, ["main.py"]⟩) { w with environment } args) := by
  have located := find?_candidates_atRoot (w := { w with environment }) there
  have loaded := fst_exec_loadEnvironmentFile (w := { w with environment }) enabled located reads bound clock
  have opens : (exec (openProgram ⟨.absolute, ["main.py"]⟩) (.start { w with environment } .unsettled)).1 =
      .ok [] := congrArg Prod.fst (exec_openProgram_atRoot (w := { w with environment }) (by decide) opened)
  obtain ⟨left, shown, valued⟩ := exec_loadEnvironmentFile enabled (Prod.ext loaded rfl)
  have same : ∀ name, left.get? name = merged.get? name := by
    intro name
    rw [valued, EnvironmentFile.get?_foldlM_bind (w.grammar.distinct _ _) bound, fileValue?,
      nearestText?, located]
    simp only [reads, Except.toOption, Option.bind_some]
  unfold outcome
  rw [run_of_loaded args opens (Prod.ext loaded shown) same]
  exact ⟨rfl, rfl⟩

/-- The text of an environment file that refers to the variable for the root. -/
def referring : String := "PATH=$\x7bKIJI_HOME\x7d\n"

/-- A world with a program and this environment file at its root. -/
def referringWorld : World :=
  { (default : World) with
    files := (FileTree.empty.set ["main.py"] (.file [])).set [".env"] (.file (Text.encode referring))
    accounts := twoHomes }

theorem proper_referring : Proper referringWorld.files :=
  (proper_empty.set (by simp) (by decide) (by simp)).set (by simp) (by decide) (by simp)

theorem outcome_referringWorld {environment merged : Environment}
    (enabled : EnvironmentFile.isDisabled environment = false)
    (bound : (referringWorld.grammar.bindings environment referring).foldlM EnvironmentFile.bind environment =
      .ok merged)
    (args : List String) :
    SameAnswer (outcome none { referringWorld with environment := merged } args)
      (outcome (some ⟨.absolute, ["main.py"]⟩) { referringWorld with environment } args) := by
  have there : referringWorld.files.get? [".env"] = some (.file (Text.encode referring)) :=
    get?_set_self (by simp)
  have opened : referringWorld.files.get? ["main.py"] = some (.file []) :=
    (get?_set_of_ne (by simp) (by decide)).trans (get?_set_self (by simp))
  have reads : Store.readText referringWorld.files referringWorld.workingDirectory ⟨.absolute, [".env"]⟩ =
      .ok referring := by
    have read : referringWorld.files.read referringWorld.workingDirectory ⟨.absolute, [".env"]⟩ =
        .ok (Text.encode referring) := read_root (by decide) there
    simp only [Store.readText, read]
    rfl
  have clock : referringWorld.now.wholePart = .ok 0 := by cbv
  exact outcome_of_file opened there reads enabled bound clock args

/-- An environment file can refer to the variable. -/
theorem not_sameAnswer_referring :
    ¬SameAnswer (envRun (some ⟨.absolute, ["main.py"]⟩) referringWorld "/")
      (variableRun (some ⟨.absolute, ["main.py"]⟩) referringWorld "/") := by
  intro same
  have given : IsGiven "/" := ⟨by decide, by decide⟩
  have clock : referringWorld.now.wholePart = .ok 0 := by cbv
  have binds : referringWorld.grammar.bindings ⟨[]⟩ referring = [("PATH", some "")] := by cbv
  have binds' : referringWorld.grammar.bindings ⟨[("KIJI_HOME", "/")]⟩ referring = [("PATH", some "/")] := by cbv
  have bound : (referringWorld.grammar.bindings ⟨[]⟩ referring).foldlM EnvironmentFile.bind ⟨[]⟩ =
      .ok ⟨[("PATH", "")]⟩ := by
    rw [binds]
    rfl
  have bound' : (referringWorld.grammar.bindings ⟨[("KIJI_HOME", "/")]⟩ referring).foldlM EnvironmentFile.bind
      ⟨[("KIJI_HOME", "/")]⟩ = .ok ⟨[("KIJI_HOME", "/"), ("PATH", "/")]⟩ := by
    rw [binds']
    rfl
  have byOption := outcome_referringWorld (by rfl) bound ["env", "--kiji-home=/"]
  have byVariable := outcome_referringWorld (by rfl) bound' ["env"]
  obtain ⟨-, printed⟩ := envRun_of_absent (w := { referringWorld with environment := ⟨[("PATH", "")]⟩ })
    proper_referring given (standing_root _) (rootIn_root proper_referring _) clock (by cbv) (by decide)
  have configured : (exec config (.start
      { referringWorld with environment := ⟨[("KIJI_HOME", "/"), ("PATH", "/")]⟩ } .unsettled)).1 =
      .ok ⟨⟨.absolute, []⟩, ⟨.absolute, [".kiji"]⟩⟩ := by rfl
  obtain ⟨-, printed'⟩ := outcome_env_of_absent
    (w := { referringWorld with environment := ⟨[("KIJI_HOME", "/"), ("PATH", "/")]⟩ }) proper_referring
    (standing_root _) configured (rootIn_root proper_referring _) clock (by cbv) (by decide)
  have equal := (byVariable.output.trans printed').symm.trans
    (same.output.trans (byOption.output.trans printed))
  revert equal
  decide

/-- By the mark, by a tilde, without a directory for the state files, and with an environment file that refers
to the variable, the answers differ. -/
theorem env_not_by_variable :
    ¬SameAnswer (envRun none markedWorld "--") (variableRun none markedWorld "--") ∧
    ¬SameAnswer (envRun none tildeWorld "~") (variableRun none tildeWorld "~") ∧
    ¬SameAnswer (envRun none { markedWorld with environment := foreignEnvironment } "/")
      (variableRun none { markedWorld with environment := foreignEnvironment } "/") ∧
    ¬SameAnswer (envRun (some ⟨.absolute, ["main.py"]⟩) referringWorld "/")
      (variableRun (some ⟨.absolute, ["main.py"]⟩) referringWorld "/") :=
  ⟨not_sameAnswer_marked, not_sameAnswer_tilde, not_sameAnswer_foreign, not_sameAnswer_referring⟩

end Checkin.Tool

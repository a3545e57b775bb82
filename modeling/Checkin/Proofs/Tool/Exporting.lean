import Checkin.Proofs.CommandLine
import Checkin.Proofs.FileTree.Passage
import Checkin.Proofs.Tool.Output
import Checkin.Proofs.Tool.WorkingDirectories

/-!
# Runs of `env`

A run that is given a path only looks at the root that is found for it (`exporting`): two paths with one root
make the same run, and if the program and the root have absolute paths, so do two working directories.
-/

namespace Checkin.Tool

open Checkin.Action Checkin.CommandLine Checkin.FileTree Checkin.ShellEnvironment

variable {text output : String} {home p : Path} {s : Session} {w : World} {l : Location} {here : Place}
  {second : Int} {hadoop hbase : Option Path}

/-- A run of `env`, once it is known which root it is about. -/
def exporting (home : Path) : Action Nat :=
  reporting .env do
    settleLog .default
    exportRoot home

theorem moved_exporting {home : Path} (absolute : home.isAbsolute = true) :
    Agrees (Moved here) (exporting home) (exporting home) := by
  have settles : Agrees (Moved here) (settleLog .default) (settleLog .default) :=
    moved_modify fun _ => rfl
  exact carries_reporting moved_log .env (settles.bind fun _ => moved_exportRoot absolute)

/-- A run of `env`, once it is known by which path it looks for its root. -/
def exportingFrom (p : Path) : Action Nat :=
  reporting .env do
    settleLog .default
    exportRoot (← resolvedRoot p)

/-- A run of `env` looks for its root by the path that is given, or by the one that the configuration gives in
its place. -/
theorem exec_respond_of_chosen {args : List String} {settings : Settings}
    (asks : parse args = .run .env settings) (unlogged : settings.logFile = none)
    (terse : settings.verbose = false)
    (chosen : ∀ sink, exec (chosenRoot settings.kijiHome) { s with sink } = (.ok p, { s with sink })) :
    exec (respond args) s = exec (exportingFrom p) s := by
  have settles := exec_settleLog_of_unnamed (.inl unlogged) s
  rw [threshold, terse] at settles
  have tried : exec (attempt .env settings) s =
      exec (do settleLog .default; exportRoot (← resolvedRoot p)) s := by
    rw [attempt, exec_bind_of_ok settles, exec_bind_of_ok (exec_settleLog_of_unnamed (.inl rfl) s), execute,
      env_eq, exec_bind_of_ok (chosen _)]
    rfl
  rw [exec_respond_of_run asks, runCommand_eq_reporting]
  exact exec_reporting_congr tried .env

theorem exec_exportingFrom (root : rootIn s.world.files s.world.workingDirectory s.world.linkDepth p = .ok home) :
    exec (exportingFrom p) s = exec (exporting home) s := by
  have settles : exec (settleLog .default) s = (.ok (), _) := exec_settleLog_of_unnamed (.inl rfl) s
  have tried : exec (do settleLog .default; exportRoot (← resolvedRoot p)) s =
      exec (do settleLog .default; exportRoot home) s := by
    rw [exec_bind_of_ok settles, exec_bind_of_ok settles, exec_bind, exec_resolvedRoot, root]
  exact exec_reporting_congr tried .env

/-- A run of `env` is about the root that is found for the path that is given, or for the one that the
configuration gives in its place. -/
theorem exec_respond_env
    (chosen : ∀ sink, exec (chosenRoot (some (argumentOf text))) { s with sink } = (.ok p, { s with sink }))
    (root : rootIn s.world.files s.world.workingDirectory s.world.linkDepth p = .ok home) :
    exec (respond ["env", "--kiji-home=" ++ text]) s = exec (exporting home) s :=
  (exec_respond_of_chosen (parse_kijiHome text) rfl rfl chosen).trans (exec_exportingFrom root)

/-- A text is neither empty nor the mark that is dropped. -/
structure IsGiven (text : String) : Prop where
  notEmpty : text ≠ ""
  notMark : text ≠ "--"

theorem IsGiven.exec_chosenRoot (given : IsGiven text) (s : Session) :
    exec (chosenRoot (some (argumentOf text))) s = (.ok (.ofText text), s) := by
  rw [argumentOf, if_neg given.notMark]
  unfold chosenRoot
  split
  · next none => cases none
  · next empty => exact absurd (Option.some.inj empty) given.notEmpty
  · next same => cases same; rfl

/-! ## What is printed -/

/-- A session has some world, has printed some text, and its log goes to no file. -/
structure Looks (w : World) (output : String) (s : Session) : Prop where
  world : s.world = w
  output : s.output = output
  aloud : ∀ threshold l, s.sink ≠ .file threshold l

theorem Looks.log (looks : Looks w output s) (clock : w.now.wholePart = .ok second) (level : Level)
    (logger message : String) :
    ∃ s', exec (Action.log level logger message) s = (.ok (), s') ∧ Looks w output s' := by
  refine exec_log_of_kept (fun s text looks => ?_) (fun s looks => by rw [looks.world, clock]) looks
  refine ⟨?_, by rw [Session.write_output, looks.output], by rw [Session.write_sink]; exact looks.aloud⟩
  rw [Session.write_world_of_no_file looks.aloud, looks.world]

theorem Looks.requireDistribution {lib : Path} {stem : String} {found : Option Path}
    (looks : Looks w output s) (clock : w.now.wholePart = .ok second)
    (finds : distributionIn w.files w.workingDirectory lib stem = .ok found) :
    ∃ s', exec (requireDistribution lib stem) s = (.ok found, s') ∧ Looks w output s' :=
  exec_requireDistribution_of_kept
    (fun _ message looks => looks.log clock .warning ShellEnvironment.logger message) looks
    (by rw [looks.world, finds])

/-- It can be told which Hadoop and which HBase there are in a distribution. -/
structure Found (w : World) (home : Path) (hadoop hbase : Option Path) : Prop where
  hadoop : distributionIn w.files w.workingDirectory ((home.child "cluster").child "lib") "hadoop-" = .ok hadoop
  hbase : distributionIn w.files w.workingDirectory ((home.child "cluster").child "lib") "hbase-" = .ok hbase

/-- Where there is nothing for the cluster, there is neither a Hadoop nor an HBase. -/
theorem found_of_absent (proper : Proper w.files) (standing : Standing w.files ⟨l, 0⟩)
    (absent : w.files.get? (l ++ ["cluster"]) = none)
    (short : (⟨.absolute, l ++ ["cluster", "lib"]⟩ : Path).text.utf8ByteSize ≤ maxPathSize) :
    Found w ⟨.absolute, l⟩ none none := by
  have stands := standing.at_absolute w.workingDirectory
  have lib : ((Path.mk .absolute l).child "cluster").child "lib" = ⟨.absolute, l ++ ["cluster", "lib"]⟩ := by
    simp [Path.child]
  have noNul : (⟨.absolute, l ++ ["cluster", "lib"]⟩ : Path).text.toList.contains '\x00' = false := by
    rw [← lib, Path.contains_nul_child (by decide), Path.contains_nul_child (by decide), stands.noNul proper]
  have gone : w.files.get? (Place.child ⟨l, 0⟩ "cluster").location = none := absent
  have walked : w.files.walk .target maxLinks .root (l ++ ["cluster", "lib"]) = .error .notFound := by
    refine (stands.walk proper (by simp) ["cluster", "lib"]).trans ?_
    rw [walk_plain (by decide) (by decide) (by simp) (by simp) (by decide), gone]
    rfl
  have lost : w.files.find w.workingDirectory ⟨.absolute, l ++ ["cluster", "lib"]⟩ .target = .error .notFound :=
    (find_eq_walk noNul (Nat.not_lt.2 short)).trans walked
  constructor <;> rw [lib, distributionIn, isDirectory_of_notFound lost]

theorem Looks.compute (looks : Looks w output s) (clock : w.now.wholePart = .ok second)
    (found : Found w home hadoop hbase) (path : String) :
    ∃ s', exec (compute home path) s = (.ok (exportsFor home hadoop hbase path), s') ∧ Looks w output s' := by
  obtain ⟨s₁, foundHadoop, looks₁⟩ := looks.requireDistribution clock found.hadoop
  obtain ⟨s₂, foundHbase, looks₂⟩ := looks₁.requireDistribution clock found.hbase
  refine ⟨s₂, ?_, looks₂⟩
  unfold ShellEnvironment.compute
  dsimp only
  rw [exec_bind_of_ok foundHadoop, exec_bind_of_ok foundHbase, exec_pure]

/-- While the clock shows a time, `env` prints the variables for its root if it can tell which Hadoop and which
HBase there are. -/
theorem Looks.exporting (looks : Looks w output s) (clock : w.now.wholePart = .ok second)
    (found : Found w home hadoop hbase) :
    (exec (exporting home) s).1 = .ok 0 ∧
      (exec (exporting home) s).2.output = output ++
        exportLines (exportsFor home hadoop hbase ((w.environment.get? "PATH").getD "")) ++ "\n" := by
  obtain ⟨s₀, settles, looks₀⟩ : ∃ s₀, exec (settleLog .default) s = (.ok (), s₀) ∧ Looks w output s₀ :=
    ⟨_, exec_settleLog_of_unnamed (.inl rfl) s, looks.world, looks.output, by simp⟩
  obtain ⟨s₁, computed, looks₁⟩ :=
    looks₀.compute clock found ((s₀.world.environment.get? "PATH").getD "")
  obtain ⟨s₂, told, looks₂⟩ := looks₁.log clock .info Tool.logger ("Set KIJI_HOME=" ++ home.text)
  have exported : exec (exportRoot home) s₀ = exec (Action.print (exportLines
      (exportsFor home hadoop hbase ((s₀.world.environment.get? "PATH").getD "")))) s₂ := by
    unfold exportRoot
    rw [exec_bind_of_ok (exec_world s₀), exec_bind_of_ok computed, exec_bind_of_ok told]
  unfold Tool.exporting reporting
  rw [exec_tryCatch, exec_bind, exec_bind_of_ok settles, exported, looks₀.world, ← looks₂.output]
  exact ⟨rfl, rfl⟩

/-! ## Runs -/

/-- A run of `env` that is given the text of a path to a distribution's root. -/
def envRun (program : Option Path) (w : World) (text : String) : Ending × Session :=
  (run program ["env", "--kiji-home=" ++ text]).run (.start w .unsettled)

/-- The same, once it is known which root the run is about. -/
def exportRun (program : Option Path) (w : World) (home : Path) : Ending × Session :=
  let result := exec (do prepare program; exporting home) (.start w .unsettled)
  (endingOf result.1, closing w.environment result.2)

theorem envRun_eq (program : Option Path) (given : IsGiven text)
    (root : rootIn w.files w.workingDirectory w.linkDepth (.ofText text) = .ok home) :
    envRun program w text = exportRun program w home := by
  have untouched : Untouched w (exec (prepare program) (.start w .unsettled)).2 :=
    (Untouched.prepare program (.start w .unsettled) ⟨rfl, rfl⟩).1
  have same : exec (start program ["env", "--kiji-home=" ++ text]) (.start w .unsettled) =
      exec (do prepare program; exporting home) (.start w .unsettled) := by
    rw [exec_start, exec_bind, exec_bind]
    cases prepared : exec (prepare program) (.start w .unsettled) with
    | mk result s =>
      rw [prepared] at untouched
      cases result with
      | error failure => rfl
      | ok done =>
        refine exec_respond_env (fun _ => given.exec_chosenRoot _) ?_
        rw [untouched.world]
        exact root
  rw [envRun, run_eq, same]
  rfl

theorem exportRun_none (w : World) (home : Path) :
    exportRun none w home = (endingOf (exec (exporting home) (.start w .unsettled)).1,
      closing w.environment (exec (exporting home) (.start w .unsettled)).2) := by
  have unprepared : exec (do prepare none; exporting home) (.start w .unsettled) =
      exec (exporting home) (.start w .unsettled) := exec_bind_of_ok (exec_pure () _) _
  rw [exportRun, unprepared]

theorem exportRun_of_found (clock : w.now.wholePart = .ok second) (found : Found w home hadoop hbase) :
    (exportRun none w home).1 = .exit 0 ∧ (exportRun none w home).2.output =
      exportLines (exportsFor home hadoop hbase ((w.environment.get? "PATH").getD "")) ++ "\n" := by
  have looks : Looks w "" (.start w .unsettled) := ⟨rfl, rfl, by simp [Session.start]⟩
  obtain ⟨ended, printed⟩ := looks.exporting clock found
  rw [String.empty_append] at printed
  rw [exportRun_none]
  exact ⟨endingOf_eq_exit_iff.2 ended, printed⟩

/-- A run with an absolute path for its program is the same in every working directory. -/
theorem exportRun_movedTo {program : Option Path} (absolute : ∀ p, program = some p → p.isAbsolute = true)
    (rooted : home.isAbsolute = true) (w : World) (here : Place) :
    exportRun program { w with workingDirectory := here } home =
      ((exportRun program w home).1, (exportRun program w home).2.movedTo here) := by
  have agrees : Agrees (Moved here) (do prepare program; exporting home) (do prepare program; exporting home) :=
    (moved_prepare absolute).bind fun _ => moved_exporting rooted
  obtain ⟨same, moved⟩ := agrees (.start w .unsettled) ((Session.start w .unsettled).movedTo here) rfl
  unfold exportRun
  show (endingOf (exec _ ((Session.start w .unsettled).movedTo here)).1,
    closing _ (exec _ ((Session.start w .unsettled).movedTo here)).2) = _
  rw [← same, moved]
  rfl

theorem exists_of_compute {path : String} {exports : List (String × String)}
    (computed : (exec (compute home path) s).1 = .ok exports) :
    ∃ more, exports = ("KIJI_HOME", home.text) :: more := by
  obtain ⟨hadoop, between, -, computed⟩ := exists_of_exec_bind (Prod.ext computed rfl)
  obtain ⟨hbase, between, -, computed⟩ := exists_of_exec_bind computed
  cases computed
  exact ⟨_, rfl⟩

/-- A run that is given a root prints nothing, or it ends well and prints the variables for the root that its
text stands for, this one first. -/
theorem envRun_cases (program : Option Path) (given : IsGiven text) (w : World) :
    ((envRun program w text).1 ≠ .exit 0 ∧ (envRun program w text).2.output = "") ∨
      ∃ home s path more, rootIn w.files w.workingDirectory w.linkDepth (.ofText text) = .ok home ∧
        s.world.files = w.files ∧ s.world.workingDirectory = w.workingDirectory ∧
        (exec (compute home path) s).1 = .ok (("KIJI_HOME", home.text) :: more) ∧
        (envRun program w text).2.output = exportLines (("KIJI_HOME", home.text) :: more) ++ "\n" := by
  obtain ⟨result, s, -, untouched, silent, ⟨failure, -, ran⟩ | ⟨-, ran⟩⟩ :=
    run_cases program ["env", "--kiji-home=" ++ text] w
  · rw [envRun, ran]
    exact .inl ⟨by simp, silent⟩
  · rw [exec_respond_of_run (parse_kijiHome text)] at ran
    rw [envRun, ran]
    rcases output_of_runCommand .env (.about text) s with
      ⟨settled, line, settles, -, printed, prints⟩ | ⟨other, unprinted⟩
    · rw [exec_settleLog_of_unnamed (.inl rfl)] at settles
      cases settles
      rw [silent, String.empty_append] at printed
      cases prints with
      | env chosen resolved computed =>
        rw [Settings.about, given.exec_chosenRoot] at chosen
        cases chosen
        rw [exec_resolvedRoot] at resolved
        obtain ⟨more, rfl⟩ := exists_of_compute computed
        have files : s.world.files = w.files := by rw [untouched.world]
        have here : s.world.workingDirectory = w.workingDirectory := by rw [untouched.world]
        have room : s.world.linkDepth = w.linkDepth := by rw [untouched.world]
        have root := congrArg Prod.fst resolved
        dsimp only at root
        rw [files, here, room] at root
        exact .inr ⟨_, { s with sink := .standardError (threshold (.about text)) }, _, more, root, files, here,
          computed, printed⟩
    · exact .inl ⟨by rwa [ne_eq, endingOf_eq_exit_iff], unprinted.trans silent⟩

end Checkin.Tool

import Checkin.Proofs.Agreement
import Checkin.Proofs.Shell.Distributions
import Checkin.Proofs.Store.Writing
import Checkin.Proofs.Tool.Commands

/-!
# Commands that go the same way

A command goes the same way in two sessions that are alike in what it looks at (`Likeness`), if logging and
printing leave them alike. The steps of the commands are gone through once for all such relations. A state
file may be written at most once in a run, so that the sessions need be alike in less afterwards (`Tends`).
-/

namespace Checkin

open Checkin.Action

/-- The variables that the configuration depends on. -/
structure Configures (known : String → Prop) : Prop where
  home : known homeVariable
  kijiHome : known kijiHomeVariable
  stateDir : known stateDirVariable

theorem Config.load_congr {env env' : Environment} (homes : Homes) (here : Place)
    (kijiHome : env.get? kijiHomeVariable = env'.get? kijiHomeVariable)
    (stateDir : env.get? stateDirVariable = env'.get? stateDirVariable) :
    Config.load env homes here = Config.load env' homes here := by
  simp only [Config.load, Environment.nonempty?, kijiHome, stateDir]

/-! ## Steps of a run -/

namespace Tool

open CommandLine

/-- Writes a time of last use and says so. -/
def recordTime (cfg : Config) (millis : Int) : Action Value :=
  match (Value.int millis).text? with
  | none => throw .tooManyDigits
  | some text => do
    Store.writeValue cfg.lastUsedFile text
    reportUse cfg (.int millis)

theorem recordUse_null_eq (cfg : Config) :
    Usage.recordUse cfg .null = Store.currentMillis >>= recordTime cfg := by
  simp only [recordUse_eq, Store.writeLastUsed_null, map_eq_pure_bind, bind_assoc, pure_bind]
  refine congrArg (_ >>= ·) (funext fun millis => ?_)
  unfold Store.writeTime recordTime
  cases (Value.int millis).text? with
  | none => rfl
  | some text => simp only [bind_assoc, pure_bind]

/-- The variables that a command depends on. -/
structure Consults (known : String → Prop) (command : Command) (settings : Settings) : Prop where
  configures : command ≠ .env ∨ settings.kijiHome = none ∨ settings.kijiHome = some "" → Configures known
  version : command = .checkin → known versionVariable
  path : command = .env → known "PATH"

/-- Goes on after an action that ends well, and reports a failure of it; gives the exit code. -/
def reporting (command : Command) (a : Action Unit) : Action Nat :=
  tryCatch (do a; return 0) fun failure => do
    unless failure.isReported do throw failure
    Action.log .error logger (failureLine command failure)
    return 1

theorem runCommand_eq_reporting (command : Command) (settings : Settings) :
    runCommand command settings = reporting command (attempt command settings) :=
  runCommand_eq command settings

theorem exec_reporting_congr {a b : Action Unit} {s s' : Session} (same : exec a s = exec b s')
    (command : Command) : exec (reporting command a) s = exec (reporting command b) s' := by
  rw [reporting, reporting, exec_tryCatch, exec_tryCatch, exec_bind, exec_bind, same]

/-- Once the log is settled, a run is its command and perhaps the report of a failure. -/
theorem exec_runCommand_of_settled {command : Command} {settings : Settings} {s s' : Session}
    (settled : exec (settleLog settings) s = (.ok (), s')) :
    exec (runCommand command settings) s = exec (reporting command (execute command settings)) s' := by
  rw [runCommand_eq_reporting]
  exact exec_reporting_congr (exec_bind_of_ok settled _) command

end Tool

/-! ## Likeness -/

/-- Related sessions are alike in what the tool finds around it besides files and draws, with known variables,
and what is logged or printed in both keeps them related. -/
structure Likeness (known : String → Prop) (related : Session → Session → Prop) : Prop where
  environment : ∀ {s s'}, related s s' → ∀ name, known name →
    s.world.environment.get? name = s'.world.environment.get? name
  workingDirectory : ∀ {s s'}, related s s' → s.world.workingDirectory = s'.world.workingDirectory
  accounts : ∀ {s s'}, related s s' → s.world.accounts = s'.world.accounts
  clock : ∀ {s s'}, related s s' → s.world.now = s'.world.now
  platform : ∀ {s s'}, related s s' → s.world.platform = s'.world.platform
  packageVersion : ∀ {s s'}, related s s' → s.world.packageVersion = s'.world.packageVersion
  log : ∀ level logger message,
    Agrees related (Action.log level logger message) (Action.log level logger message)
  print : ∀ line, Agrees related (Action.print line) (Action.print line)

/-- In related sessions a path leads to something in both or in neither, and to the same text. -/
structure Reads (related : Session → Session → Prop) (p : Path) : Prop where
  present : ∀ {s s'}, related s s' →
    s.world.files.exists? s.world.workingDirectory p = s'.world.files.exists? s'.world.workingDirectory p
  text : ∀ {s s'}, related s s' →
    Store.readText s.world.files s.world.workingDirectory p =
      Store.readText s'.world.files s'.world.workingDirectory p

/-- A state file is read alike in sessions of one relation, and writing it leads to another relation. -/
structure Tends (before after : Session → Session → Prop) (p : Path) : Prop extends Reads before p where
  draws : Agrees before draw draw
  writes : ∀ value, Carries before after (Store.writeValue p value) (Store.writeValue p value)

variable {known : String → Prop} {related before after : Session → Session → Prop} {p : Path}

/-! ## State files -/

/-- An id is looked for alike if its path leads to something in both sessions or in neither, and to the same
text if it leads to something. -/
theorem Store.agrees_existingId?
    (log : ∀ level logger message,
      Agrees related (Action.log level logger message) (Action.log level logger message))
    (present : ∀ {s s'}, related s s' →
      s.world.files.exists? s.world.workingDirectory p = s'.world.files.exists? s'.world.workingDirectory p)
    (text : ∀ {s s'}, related s s' → s.world.files.exists? s.world.workingDirectory p = .ok true →
      readText s.world.files s.world.workingDirectory p =
        readText s'.world.files s'.world.workingDirectory p) :
    Agrees related (existingId? p) (existingId? p) := by
  apply agrees_world_bind
  intro s s' alike
  rw [← present alike]
  cases looked : s.world.files.exists? s.world.workingDirectory p with
  | error fault =>
    intro u u' alike'
    have failed := fun u => exec_onPath p (.error fault : Except Fault Bool) u
    rw [exec_bind_of_error (failed u), exec_bind_of_error (failed u')]
    exact ⟨rfl, alike'⟩
  | ok there =>
    show Agrees related (pure there >>= _) (pure there >>= _)
    rw [pure_bind, pure_bind]
    cases there with
    | false => exact agrees_pure none
    | true =>
      rw [if_pos rfl, if_pos rfl, text alike looked]
      apply (agrees_ofExcept _).bind
      intro text
      dsimp only
      split
      · exact (log _ _ _).bind fun _ => agrees_pure none
      · exact agrees_pure _

theorem Store.carries_writeIdIfAbsent (existing : Agrees before (existingId? p) (existingId? p))
    (draws : Agrees before draw draw)
    (writes : ∀ value, Carries before after (writeValue p value) (writeValue p value))
    (weaker : ∀ s s', before s s' → after s s') :
    Carries before after (writeIdIfAbsent p) (writeIdIfAbsent p) := by
  refine Carries.bind existing (fun id? => ?_) weaker
  cases id? with
  | some id => exact Carries.weaken (agrees_pure _) weaker
  | none =>
    refine Carries.bind draws (fun draw => ?_) weaker
    exact (writes _).bind (fun _ => agrees_pure _) fun _ _ => id

theorem Tool.carries_generateId {cfg : Config}
    (log : ∀ level logger message,
      Agrees after (Action.log level logger message) (Action.log level logger message))
    (asks : Carries before after (Store.writeIdIfAbsent cfg.idFile) (Store.writeIdIfAbsent cfg.idFile)) :
    Carries before after (Usage.generateId cfg) (Usage.generateId cfg) := by
  rw [generateId_eq]
  refine asks.bind (fun answer => ?_) fun _ _ => id
  unfold reportId
  split <;> exact (log _ _ _).bind fun _ => agrees_pure _

theorem Store.agrees_currentMillis (clock : ∀ {s s'}, related s s' → s.world.now = s'.world.now) :
    Agrees related currentMillis currentMillis := by
  apply agrees_world_bind
  intro s s' alike
  rw [clock alike]
  exact agrees_ofExcept _

namespace Likeness

theorem generateId (likeness : Likeness known before) (likeness' : Likeness known after) {cfg : Config}
    (tends : Tends before after cfg.idFile) (weaker : ∀ s s', before s s' → after s s') :
    Carries before after (Usage.generateId cfg) (Usage.generateId cfg) := by
  have existing := Store.agrees_existingId? likeness.log tends.present fun alike _ => tends.text alike
  exact Tool.carries_generateId likeness'.log
    (Store.carries_writeIdIfAbsent existing tends.draws tends.writes weaker)

theorem recordUse (likeness : Likeness known before) (likeness' : Likeness known after) {cfg : Config}
    (tends : Tends before after cfg.lastUsedFile) (weaker : ∀ s s', before s s' → after s s') :
    Carries before after (Usage.recordUse cfg .null) (Usage.recordUse cfg .null) := by
  rw [Tool.recordUse_null_eq]
  refine Carries.bind (Store.agrees_currentMillis likeness.clock) (fun millis => ?_) weaker
  unfold Tool.recordTime
  split
  · exact Carries.weaken (agrees_throw _) weaker
  · exact (tends.writes _).bind (fun _ => (likeness'.log _ _ _).bind fun _ => agrees_pure _) fun _ _ => id

/-! ## Configuration and messages -/

theorem exec_config (likeness : Likeness known related) (configures : Configures known) {s s' : Session}
    (alike : related s s') : (exec Tool.config s).1 = (exec Tool.config s').1 := by
  rw [Tool.exec_config, Tool.exec_config, World.homes, World.homes, Homes.under, Homes.under,
    likeness.workingDirectory alike, likeness.accounts alike, likeness.environment alike _ configures.home]
  exact Config.load_congr _ _ (likeness.environment alike _ configures.kijiHome)
    (likeness.environment alike _ configures.stateDir)

/-- What follows the configuration need go the same way only for one that there is. -/
theorem config_bind {α : Type} (likeness : Likeness known before) (configures : Configures known)
    {f g : Config → Action α} (weaker : ∀ s s', before s s' → after s s')
    (next : ∀ s s' cfg, before s s' → exec Tool.config s = (.ok cfg, s) →
      Carries before after (f cfg) (g cfg)) :
    Carries before after (Tool.config >>= f) (Tool.config >>= g) := by
  intro s s' alike
  have same := likeness.exec_config configures alike
  rcases Tool.exec_config_cases s with ⟨cfg, configured⟩ | ⟨failure, failed⟩
  · rcases Tool.exec_config_cases s' with ⟨cfg', configured'⟩ | ⟨failure', failed'⟩
    · rw [configured, configured'] at same
      cases same
      rw [exec_bind_of_ok configured, exec_bind_of_ok configured']
      exact next s s' cfg alike configured s s' alike
    · rw [configured, failed'] at same
      cases same
  · rcases Tool.exec_config_cases s' with ⟨cfg', configured'⟩ | ⟨failure', failed'⟩
    · rw [failed, configured'] at same
      cases same
    · rw [failed, failed'] at same
      cases same
      rw [exec_bind_of_error failed, exec_bind_of_error failed']
      exact ⟨rfl, weaker s s' alike⟩

theorem currentVersion (likeness : Likeness known related) (version : known versionVariable) :
    Agrees related Version.current Version.current := by
  apply agrees_world_bind
  intro s s' alike
  simp only [Environment.nonempty?, likeness.environment alike _ version, likeness.packageVersion alike]
  split
  · exact agrees_pure _
  · split
    · exact agrees_throw _
    · exact agrees_throw _
    · exact (likeness.log _ _ _).bind fun _ => agrees_pure _

theorem build (likeness : Likeness known related) (version : known versionVariable) (b : Builder) :
    Agrees related (b.build .live .current) (b.build .live .current) := by
  apply (agrees_ofExcept _).bind
  rintro ⟨id, millis⟩
  apply agrees_world_bind
  intro s s' alike
  simp only [likeness.platform alike]
  apply (agrees_ofExcept _).bind
  intro operatingSystem
  apply ((likeness.currentVersion version).map Value.text).bind
  intro bentoVersion
  apply (agrees_ofExcept _).bind
  intro runtime
  exact agrees_ofExcept _

theorem readId_congr (reads : Reads related p) {s s' : Session} (alike : related s s') :
    Store.readId s.world.files s.world.workingDirectory p =
      Store.readId s'.world.files s'.world.workingDirectory p := by
  simp only [Store.readId, Store.readValue, reads.text alike]

theorem readLastUsed_congr (reads : Reads related p) {s s' : Session} (alike : related s s') :
    Store.readLastUsed s.world.files s.world.workingDirectory p =
      Store.readLastUsed s'.world.files s'.world.workingDirectory p := by
  simp only [Store.readLastUsed, Store.readValue, reads.text alike]

/-! ## Commands -/

theorem checkin (likeness : Likeness known related) (configures : Configures known)
    (version : known versionVariable)
    (reads : ∀ s s' cfg, related s s' → exec Tool.config s = (.ok cfg, s) →
      Reads related cfg.idFile ∧ Reads related cfg.lastUsedFile) :
    Agrees related Tool.checkin Tool.checkin := by
  refine likeness.config_bind configures (fun _ _ => id) fun s s' cfg alike configured => ?_
  obtain ⟨readsId, readsTime⟩ := reads s s' cfg alike configured
  apply agrees_world_bind
  intro t t' alike
  simp only [readId_congr readsId alike, readLastUsed_congr readsTime alike]
  apply (agrees_ofExcept _).bind
  intro id
  apply (agrees_ofExcept _).bind
  intro lastUsed
  apply (likeness.build version _).bind
  intro message
  exact likeness.print _

end Likeness

/-! ## Distributions -/

/-- What comes of looking for the root of a distribution. -/
def Tool.rootIn (t : FileTree) (here : Place) (depth : Nat) (p : Path) : Except Failure Path :=
  match t.resolve here depth p with
  | .error fault => .error (.system fault none)
  | .ok root =>
    match t.stat here root with
    | .error .tooManyLinks => .error (.linkLoop root.text)
    | .error .embeddedNul => .error (.system .embeddedNul none)
    | _ => .ok root

theorem Tool.exec_resolvedRoot (p : Path) (s : Session) :
    exec (resolvedRoot p) s = (rootIn s.world.files s.world.workingDirectory s.world.linkDepth p, s) := by
  unfold resolvedRoot rootIn
  rw [exec_bind_of_ok (exec_world s)]
  cases s.world.files.resolve s.world.workingDirectory s.world.linkDepth p with
  | error fault => rfl
  | ok root =>
    dsimp only
    cases s.world.files.stat s.world.workingDirectory root with
    | ok node => rfl
    | error fault => cases fault <;> rfl

/-- What is in a file makes no difference to the root of a distribution. -/
theorem Tool.rootIn_of_twins {l : Location} {x x' : List UInt8} {t t' : FileTree}
    (twins : FileTree.Twins l x x' t t') (here : Place) (depth : Nat) (p : Path) :
    rootIn t' here depth p = rootIn t here depth p := by
  unfold rootIn
  rw [twins.resolve]
  cases t.resolve here depth p with
  | error fault => rfl
  | ok root =>
    dsimp only
    rcases twins.stat_cases here root with same | ⟨-, left, right⟩
    · rw [same]
    · rw [left, right]

/-- In related sessions the same root is found for a distribution, and the same Hadoops and HBases in it. -/
structure Explores (related : Session → Session → Prop) : Prop where
  resolves : ∀ p, Agrees related (Tool.resolvedRoot p) (Tool.resolvedRoot p)
  finds : ∀ lib stem, Agrees related (ShellEnvironment.findDistribution lib stem)
    (ShellEnvironment.findDistribution lib stem)

theorem explores_of_looks
    (roots : ∀ {s s'}, related s s' → ∀ p,
      Tool.rootIn s.world.files s.world.workingDirectory s.world.linkDepth p =
        Tool.rootIn s'.world.files s'.world.workingDirectory s'.world.linkDepth p)
    (distributions : ∀ {s s'}, related s s' → ∀ lib stem,
      ShellEnvironment.distributionIn s.world.files s.world.workingDirectory lib stem =
        ShellEnvironment.distributionIn s'.world.files s'.world.workingDirectory lib stem) :
    Explores related where
  resolves := by
    intro p s s' alike
    rw [Tool.exec_resolvedRoot, Tool.exec_resolvedRoot, roots alike]
    exact ⟨rfl, alike⟩
  finds := by
    intro lib stem s s' alike
    rw [ShellEnvironment.exec_findDistribution, ShellEnvironment.exec_findDistribution, distributions alike]
    exact ⟨rfl, alike⟩

/-- Where the same distributions are found, the same variables come of it. -/
theorem ShellEnvironment.agrees_compute
    (log : ∀ level logger message,
      Agrees related (Action.log level logger message) (Action.log level logger message))
    {root : Path} (finds : ∀ stem, Agrees related (findDistribution ((root.child "cluster").child "lib") stem)
      (findDistribution ((root.child "cluster").child "lib") stem)) (path : String) :
    Agrees related (compute root path) (compute root path) := by
  have requires (stem : String) :
      Agrees related (requireDistribution ((root.child "cluster").child "lib") stem)
        (requireDistribution ((root.child "cluster").child "lib") stem) := by
    apply (finds stem).bind
    intro home
    cases home with
    | some home => exact agrees_pure _
    | none => exact (log _ _ _).bind fun _ => agrees_pure _
  apply (requires _).bind
  intro hadoop
  apply (requires _).bind
  intro hbase
  exact agrees_pure _

/-- A failure is reported alike. -/
theorem Tool.carries_reporting
    (log : ∀ level logger message,
      Agrees after (Action.log level logger message) (Action.log level logger message))
    {a b : Action Unit} (command : CommandLine.Command) (carries : Carries before after a b) :
    Carries before after (reporting command a) (reporting command b) := by
  unfold reporting
  refine Carries.tryCatch (carries.bind (fun _ => agrees_pure _) fun _ _ => id) fun failure => ?_
  split
  · exact (log _ _ _).bind fun _ => agrees_pure _
  · exact (agrees_throw failure).bind fun _ => (log _ _ _).bind fun _ => agrees_pure _

namespace Likeness

open CommandLine

/-- What `env` does with the path of a root. -/
theorem exportRoot (likeness : Likeness known related) (explores : Explores related) (path : known "PATH")
    (p : Path) :
    Agrees related (do Tool.exportRoot (← Tool.resolvedRoot p)) (do Tool.exportRoot (← Tool.resolvedRoot p)) := by
  apply (explores.resolves p).bind
  intro root
  apply agrees_world_bind
  intro s s' alike
  simp only [likeness.environment alike _ path]
  apply (ShellEnvironment.agrees_compute likeness.log (explores.finds _) _).bind
  intro exports
  exact (likeness.log _ _ _).bind fun _ => likeness.print _

/-- The root is chosen by the configuration, unless one is given. -/
theorem env (likeness : Likeness known related) (explores : Explores related) {kijiHome : Option String}
    (configures : kijiHome = none ∨ kijiHome = some "" → Configures known) (path : known "PATH") :
    Agrees related (Tool.env kijiHome) (Tool.env kijiHome) := by
  have configured (configures : Configures known) : Agrees related Tool.config Tool.config := by
    rw [← bind_pure Tool.config]
    exact likeness.config_bind configures (fun _ _ => id) fun _ _ _ _ _ => agrees_pure _
  have chosen : Agrees related (Tool.chosenRoot kijiHome) (Tool.chosenRoot kijiHome) := by
    unfold Tool.chosenRoot
    split
    · exact (configured (configures (.inl rfl))).map _
    · exact (configured (configures (.inr rfl))).map _
    · exact agrees_pure _
  rw [Tool.env_eq]
  exact chosen.bind fun p => likeness.exportRoot explores path p

/-- A command that keeps a state file leaves the sessions alike in less, and so may the others. -/
theorem execute {command : Command} {settings settings' : Settings} (likeness : Likeness known before)
    (likeness' : Likeness known after) (consults : Tool.Consults known command settings)
    (sameHome : settings'.kijiHome = settings.kijiHome) (explores : command = .env → Explores before)
    (tends : ∀ s s' cfg, before s s' → exec Tool.config s = (.ok cfg, s) →
      Tends before after cfg.idFile ∧ Tends before after cfg.lastUsedFile)
    (weaker : ∀ s s', before s s' → after s s') :
    Carries before after (Tool.execute command settings) (Tool.execute command settings') := by
  obtain ⟨configures, version, path⟩ := consults
  cases command with
  | generateUuid =>
    exact likeness.config_bind (configures (.inl (by simp))) weaker fun s s' cfg alike configured =>
      (likeness.generateId likeness' (tends s s' cfg alike configured).1 weaker).discard
  | recordUsage =>
    exact likeness.config_bind (configures (.inl (by simp))) weaker fun s s' cfg alike configured =>
      (likeness.recordUse likeness' (tends s s' cfg alike configured).2 weaker).discard
  | checkin =>
    refine Carries.weaken ?_ weaker
    refine likeness.checkin (configures (.inl (by simp))) (version rfl) fun s s' cfg alike configured => ?_
    obtain ⟨tendsId, tendsTime⟩ := tends s s' cfg alike configured
    exact ⟨tendsId.toReads, tendsTime.toReads⟩
  | env =>
    refine Carries.weaken ?_ weaker
    show Agrees before (Tool.env settings.kijiHome) (Tool.env settings'.kijiHome)
    rw [sameHome]
    exact likeness.env (explores rfl) (fun ungiven => configures (.inr ungiven)) (path rfl)

end Likeness

end Checkin

import Checkin.Builder
import Checkin.CommandLine.Request
import Checkin.CommandLine.Usage
import Checkin.EnvironmentFile
import Checkin.Message
import Checkin.ShellEnvironment
import Checkin.Usage

/-!
# The tool

The program behind the command line: it loads an environment file, reads its arguments, settles where
the log goes, and runs a command. Failures that the command line reports end it with exit code 1, a
command line that is refused with 2; any other failure escapes.
-/

namespace Checkin.Tool

open Checkin.CommandLine

/-- How a run of the tool ends. -/
inductive Ending
  | exit (code : Nat)
  | escape (failure : Failure)
deriving DecidableEq, Repr

/-- The part of the tool that speaks in the log. -/
def logger : String := "kiji-bento"

/-- The configuration that the environment sets. -/
def config : Action Config := do
  let world ← Action.world
  Action.ofExcept (Config.load world.environment world.homes world.workingDirectory)

/-! ## Commands -/

/-- Builds a check-in from the state files and prints it. -/
def checkin : Action Unit := do
  let cfg ← config
  let world ← Action.world
  let id ← Action.ofExcept (Store.readId world.files world.workingDirectory cfg.idFile)
  let lastUsed ← Action.ofExcept (Store.readLastUsed world.files world.workingDirectory cfg.lastUsedFile)
  let builder := (Builder.new.withId (.text id)).withLastUsedMillis (.int lastUsed)
  let message ← builder.build .live .current
  Action.print message.wire

/-- The absolute path without links of a distribution's root. A path with a loop of links has none. -/
def resolvedRoot (p : Path) : Action Path := do
  let world ← Action.world
  match world.files.resolve world.workingDirectory world.linkDepth p with
  | .error fault => throw (.system fault none)
  | .ok root =>
    match world.files.stat world.workingDirectory root with
    | .error .tooManyLinks => throw (.linkLoop root.text)
    | .error .embeddedNul => throw (.system .embeddedNul none)
    | _ => return root

/-- Prints the lines that export a distribution's variables. -/
def env (kijiHome : Option String) : Action Unit := do
  let root ←
    match kijiHome with
    | none | some "" => Config.kijiHome <$> config
    | some path => pure (Path.ofText path)
  let root ← resolvedRoot root
  let path := ((← Action.world).environment.get? "PATH").getD ""
  let exports ← ShellEnvironment.compute root path
  Action.log .info logger ("Set KIJI_HOME=" ++ root.text)
  Action.print (ShellEnvironment.exportLines exports)

/-- Runs a command. -/
def execute (command : Command) (settings : Settings) : Action Unit :=
  match command with
  | .generateUuid => do discard (Usage.generateId (← config))
  | .recordUsage => do discard (Usage.recordUse (← config) .null)
  | .checkin => checkin
  | .env => env settings.kijiHome

/-! ## Runs -/

/-- The absolute path of a log file. Double dots are taken away without regard to links. -/
def logPath (here : Place) (file : String) : Except Failure Path := do
  let p := Path.ofText file
  if p.isAbsolute then return p.normal
  else
    let directory ← Config.workingPath here
    return (directory.join p).normal

/-- Settles where the log goes. A log file is opened, and made if need be, before anything is logged. -/
def settleLog (settings : Settings) : Action Unit := do
  let threshold := if settings.verbose then Level.debug else Level.info
  match settings.logFile with
  | none | some "" => modify fun s => { s with sink := .standardError threshold }
  | some file =>
    let world ← Action.world
    let p ← Action.ofExcept (logPath world.workingDirectory file)
    let (location, files) ← Action.onPath p (world.files.openFile world.workingDirectory p)
    Action.setFiles files
    modify fun s => { s with sink := .file threshold location }

/-- Runs a command with its log, reports its failure, and gives the exit code. -/
def runCommand (command : Command) (settings : Settings) : Action Nat :=
  tryCatch (do settleLog settings; execute command settings; return 0) fun failure => do
    unless failure.isReported do throw failure
    Action.log .error logger (command.name ++ " failed: " ++ failure.text)
    return 1

/-- Does what arguments ask for, and gives the exit code. -/
def respond (args : List String) : Action Nat := do
  match parse args with
  | .help scope =>
    modify fun s => { s with output := s.output ++ scope.help }
    return 0
  | .reject scope r =>
    modify fun s => { s with errors := s.errors ++ scope.refusal r }
    return 2
  | .run command settings => runCommand command settings

/-- Opens the file that holds the program and gives the directory it is in. Double dots are taken away
without regard to links, so a path that needs a link for its double dots can lead to no file. -/
def openProgram (program : Path) : Action Location := do
  let world ← Action.world
  let p := program.normal
  discard <| Action.onPath p (world.files.read world.workingDirectory p)
  return p.parent.names

/-- Loads the environment file nearest to the program's directory, unless that is turned off. -/
def loadEnvironmentFile (programDirectory : Location) : Action Unit := do
  let world ← Action.world
  let environment := world.environment
  if EnvironmentFile.isDisabled environment then return
  match EnvironmentFile.locate? world.files world.workingDirectory programDirectory with
  | none => return
  | some p =>
    let text ← Action.ofExcept (Store.readText world.files world.workingDirectory p)
    let (loaded, lines) := EnvironmentFile.load world.grammar environment text
    lines.forM fun line => Action.log .warning "dotenv.main" (EnvironmentFile.warning line)
    let environment ← Action.ofExcept loaded
    modify fun s => { s with world := { s.world with environment } }

/-- Opens the program, loads its environment file, and does what arguments ask for. -/
def start (program : Option Path) (args : List String) : Action Nat := do
  program.forM fun p => do loadEnvironmentFile (← openProgram p)
  respond args

/-- Runs the tool. The program's file is given when environment files are in reach; what they set is set
for this run only. -/
def run (program : Option Path) (args : List String) : StateM Session Ending := do
  let environment := (← get).world.environment
  let result ← (start program args).run
  modify fun s => { s with sink := .unsettled, world := { s.world with environment } }
  match result with
  | .ok code => return .exit code
  | .error failure => return .escape failure

end Checkin.Tool

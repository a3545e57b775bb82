import Checkin.Tool
import Std.Time.DateTime.Timestamp

/-!
# The program

The layer between the tool and the system it runs on. It takes a picture of the part of the file system
that a run can reach, lets the tool work on the picture, and carries out what the tool changed there. A
picture shows a link by the place it leads to, and leaves out a link that leads nowhere.
-/

namespace Checkin.Program

/-! ## The system -/

/-- The version of the installed package. -/
def packageVersion : String := "1.0.0"

/-- The version of the runtime that the program is built for. -/
def runtimeVersion : String := "4.33.0"

/-- What an action gives, unless it fails. -/
def attempt? {α : Type} (action : IO α) : IO (Option α) := do
  match ← action.toBaseIO with
  | .ok a => return some a
  | .error _ => return none

/-- The content of a file of the system, which is taken for empty if it cannot be read. -/
def contentOf (file : String) : IO (List UInt8) := do
  return ((← attempt? (IO.FS.readBinFile file)).map ByteArray.toList).getD []

/-- The text of a file of the system, which is taken for empty if it is not UTF-8. -/
def textIn (file : String) : IO String := do
  return (Text.decode (← contentOf file)).toOption.getD ""

/-- The text of one of the files in which the kernel describes itself. -/
def kernelText (file : String) : IO String := do
  return Store.valueIn (← textIn ("/proc/sys/kernel/" ++ file))

/-- The platform. -/
def platform : IO Platform := do
  return ⟨← kernelText "ostype", ← kernelText "osrelease", ← kernelText "arch", runtimeVersion⟩

/-- The variable that a name and a value around an equals sign set. -/
def assignment? (octets : List UInt8) : Option (String × String) :=
  let (name, value) := octets.span (· ≠ '='.toUInt8)
  match Text.decode name, Text.decode (value.drop 1) with
  | .ok name, .ok value => some (name, value)
  | _, _ => none

/-- The variables of the process; those that are not UTF-8 are left out. -/
def environment : IO Environment := do
  let entries := (← contentOf "/proc/self/environ").splitOn 0
  return ⟨(entries.filter (· ≠ [])).filterMap assignment?⟩

/-- The name, the number and the home directory in a line of the list of accounts. -/
def account? (line : String) : Option (String × String × String) :=
  match line.splitOn ":" with
  | [name, _, number, _, _, home, _] => some (name, number, home)
  | _ => none

/-- The number of the account that the process belongs to. -/
def accountNumber? : IO (Option String) := do
  let lines := (← textIn "/proc/self/status").splitOn "\n"
  return lines.findSome? fun line =>
    match line.splitOn "\t" with
    | "Uid:" :: number :: _ => some number
    | _ => none

/-- The home directories of the accounts. -/
def accounts : IO Homes := do
  let listed := ((← textIn "/etc/passwd").splitOn "\n").filterMap account?
  let number? ← accountNumber?
  return {
    own := (listed.find? fun account => some account.2.1 = number?).map (·.2.2)
    named := listed.map fun account => (account.1, account.2.2) }

/-- How deep the tool recurses into missing directories and into links. -/
def recursionDepth : Nat := 1000

/-- The time. -/
def now : IO Binary64 := do
  let nanoseconds := (← Std.Time.Timestamp.now).toNanosecondsSinceUnixEpoch.val
  return Binary64.ofRatio (nanoseconds < 0) nanoseconds.natAbs 1000000000

/-- A random draw. -/
def draw : IO Draw := do
  let octets ← IO.getRandomBytes 16
  return Vector.ofFn fun i => octets.data.getD i 0

/-- The world without its files. -/
def bareWorld : IO World := do
  let workingDirectory : Place := ⟨(Path.ofText (← IO.currentDir).toString).names, 0⟩
  return {
    files := .empty
    workingDirectory
    environment := ← environment
    accounts := ← accounts
    now := ← now
    draws := [← draw]
    platform := ← platform
    grammar := .usual
    depth := recursionDepth
    linkDepth := ⟨recursionDepth, by decide⟩
    packageVersion := some packageVersion }

/-! ## The picture -/

/-- The text of the path to a location. -/
def textOf (l : Location) : String :=
  (⟨.absolute, l⟩ : Path).text

/-- Adds to a picture what there is along names, starting from a location that no link leads to. -/
partial def look (files : FileTree) (here : Location) (names : List String) : IO FileTree := do
  match names with
  | [] => return files
  | ".." :: names => look files here.dropLast names
  | name :: names =>
    let there := here ++ [name]
    match ← attempt? (IO.FS.realPath (textOf there)) with
    | none => return files
    | some real =>
      if real.toString = textOf there then
        match (← real.metadata).type with
        | .dir => look (files.set there .directory) there names
        | _ => return files.set there (.file (← contentOf (textOf there)))
      else
        let files := files.set there (.link real.toString)
        look files [] ((Path.ofText real.toString).names ++ names)

/-- The world with what there is at a path added to its picture. -/
def lookAt (world : World) (p : Path) : IO World := do
  let start := if p.isAbsolute then [] else world.workingDirectory.location
  return { world with files := ← look world.files start p.names }

/-- The world with what a directory holds added to its picture. -/
def lookInto (world : World) (directory : Path) : IO World := do
  match ← attempt? (do (← IO.FS.realPath directory.text).readDir) with
  | none => return world
  | some entries => entries.toList.foldlM (fun world entry => lookAt world (directory.child entry.fileName)) world

/-- The places where an environment file may be. -/
def environmentFiles (programDirectory : Location) : List Path :=
  (List.range (programDirectory.length + 1)).map fun depth =>
    ⟨.absolute, programDirectory.take depth ++ [".env"]⟩

/-- The files that a run with these arguments reads and writes, and the directory it searches, in the
environment that it will have. -/
def reach (world : World) (args : List String) : List Path × List Path :=
  match CommandLine.parse args with
  | .run _ settings =>
    let cfg := (Config.load world.environment world.homes world.workingDirectory).toOption
    let roots := (settings.kijiHome.map Path.ofText).toList ++ cfg.toList.map Config.kijiHome
    let stateFiles := cfg.toList.flatMap fun cfg => [cfg.idFile, cfg.lastUsedFile]
    let logFiles := (settings.logFile.map Path.ofText).toList
    (stateFiles ++ logFiles, roots.map fun root => (root.child "cluster").child "lib")
  | _ => ([], [])

/-- The world with all that a run can reach. The program's own file is shown without its content. -/
def picture (program : Path) (args : List String) : IO World := do
  let world ← bareWorld
  let world ← lookAt world ⟨.absolute, world.workingDirectory.location⟩
  let world ← lookAt world program.parent
  let world := { world with files := world.files.set program.names (.file []) }
  let world ← (environmentFiles program.parent.names).foldlM lookAt world
  let (_, loaded) :=
    (Tool.loadEnvironmentFile program.parent.names).run.run (Session.start world .unsettled)
  let (files, directories) := reach loaded.world args
  let world ← (files ++ directories).foldlM lookAt world
  directories.foldlM lookInto world

/-- Makes the directories and writes the files in which a picture differs from the one before. -/
def carryOut (before after : FileTree) : IO Unit :=
  after.entries.forM fun (l, node) =>
    if before.get? l = some node then pure ()
    else
      match node with
      | .directory => IO.FS.createDir (textOf l)
      | .file content => IO.FS.writeBinFile (textOf l) ⟨content.toArray⟩
      | .link _ => pure ()

end Checkin.Program

open Checkin in
/-- Runs the tool on the system. A failure that the tool does not report ends the program as well. -/
def main (args : List String) : IO UInt32 := do
  let program := Path.ofText (← IO.appPath).toString
  let world ← Program.picture program args
  let (ending, session) := (Tool.run (some program) args).run (Session.start world .unsettled)
  Program.carryOut world.files session.world.files
  (← IO.getStdout).putStr session.output
  (← IO.getStderr).putStr session.errors
  match ending with
  | .exit code => return code.toUInt32
  | .escape failure =>
    (← IO.getStderr).putStrLn failure.text
    return 1

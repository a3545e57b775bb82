import Checkin.Environment
import Checkin.Failure

/-!
# Configuration

Two directories make up the configuration: the distribution's root and the one with the state files.
Both may be set by variables; by default they are the working directory and a directory in the home
directory. A path that starts with a tilde starts in the home directory, and one that starts with a tilde
and the name of a user starts in that user's.
-/

namespace Checkin

/-- The variable that names the distribution's root. -/
def kijiHomeVariable : String := "KIJI_HOME"

/-- The variable that names the directory of the state files. -/
def stateDirVariable : String := "KIJI_BENTO_STATE_DIR"

/-- The configuration of the tool. -/
structure Config where
  kijiHome : Path
  stateDir : Path
deriving DecidableEq, Repr

namespace Config

/-- The file with the installation id. -/
def idFile (cfg : Config) : Path :=
  cfg.stateDir.child ".kiji-bento-uuid"

/-- The file with the time of last use. -/
def lastUsedFile (cfg : Config) : Path :=
  cfg.stateDir.child ".kiji-last-used"

/-- A home directory as a path. Slashes at the end of its text say nothing, and nothing at all is the root;
one that starts with a tilde is not known. -/
def homePath (home? : Option String) : Except Failure Path :=
  match home? with
  | none => .error .noHome
  | some home =>
    match (home.toList.reverse.dropWhile (· == '/')).reverse with
    | [] => .ok ⟨.absolute, []⟩
    | '~' :: _ => .error .noHome
    | cs => .ok (Path.ofText (String.ofList cs))

/-- The path with a home directory in the place of a first name that starts with a tilde. -/
def expandHome (homes : Homes) (p : Path) : Except Failure Path :=
  match p.root, p.names with
  | .relative, name :: names =>
    match name.toList with
    | '~' :: user =>
      if user.contains '\x00' then .error (.system .embeddedNul none)
      else
        (homePath (homes.of? (String.ofList user))).map fun start =>
          { start with names := start.names ++ names }
    | _ => .ok p
  | _, _ => .ok p

/-- The path of the working directory, unless it was removed. -/
def workingPath (here : Place) : Except Failure Path :=
  if here.lost = 0 then .ok ⟨.absolute, here.location⟩ else .error (.system .notFound none)

/-- The configuration that variables set, in a working directory and with the home directories there are. A
variable that is empty counts as not set. -/
def load (env : Environment) (homes : Homes) (here : Place) : Except Failure Config := do
  let kijiHome ←
    match env.nonempty? kijiHomeVariable with
    | some path => pure (Path.ofText path)
    | none => workingPath here
  let stateDir ←
    match env.nonempty? stateDirVariable with
    | some path => expandHome homes (Path.ofText path)
    | none => (·.child ".kiji") <$> homePath homes.own
  let kijiHome ← expandHome homes kijiHome
  return { kijiHome, stateDir }

end Config

end Checkin

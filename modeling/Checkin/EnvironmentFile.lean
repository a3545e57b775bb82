import Checkin.EnvironmentFile.Reference
import Checkin.Failure

/-!
# Environment files

A file named `.env` gives values to variables that the environment does not have. The one nearest to
the program counts, unless a variable turns environment files off.
-/

namespace Checkin.EnvironmentFile

open Checkin.Text

/-- The environment in which a variable that is not set has the value that a file binds it to. -/
def bind (env : Environment) (bound : String × Option String) : Except Failure Environment :=
  let (name, value) := bound
  match env.get? name, value with
  | none, some value =>
    if name.toList.contains '\x00' || value.toList.contains '\x00' then
      .error (.system .embeddedNul none)
    else if name.toList.contains '=' then .error .variableName
    else .ok (env.set name value)
  | _, _ => .ok env

/-- The environment with the bindings of a file's text, and the lines that could not be read. -/
def load (grammar : Grammar) (env : Environment) (text : String) : Except Failure Environment × List Nat :=
  ((grammar.bindings env text).foldlM bind env, grammar.unread text)

/-- The variable that turns environment files off. -/
def disablingVariable : String := "PYTHON_DOTENV_DISABLED"

/-- Whether environment files are turned off: by one of a few words, in either case. -/
def isDisabled (env : Environment) : Bool :=
  match env.get? disablingVariable with
  | none => false
  | some word =>
    let folded := word.toList.map fun c => if c = 'ſ' then 's' else c.toLower
    ["1", "true", "t", "yes", "y"].contains (String.ofList folded)

/-- The warning about a statement that starts at a line and could not be read. -/
def warning (line : Nat) : String :=
  "python-dotenv could not parse statement starting at line " ++ numeral line

/-- The environment file nearest to a directory: in it, or in one above it. -/
def locate? (files : FileTree) (here : Place) (directory : Location) : Option Path :=
  let candidate : Path := ⟨.absolute, directory ++ [".env"]⟩
  match files.stat here candidate with
  | .ok (.file _) => some candidate
  | _ => if directory = [] then none else locate? files here directory.dropLast
termination_by directory.length
decreasing_by
  rename_i h
  have := List.length_pos_iff.2 h
  simp only [List.length_dropLast]
  omega

end Checkin.EnvironmentFile

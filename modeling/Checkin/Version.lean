import Checkin.Session
import Checkin.Value

/-!
# The BentoBox version

A variable overrides the version; otherwise it is the one in the metadata of the installed package. A
builder may be given a source of its own instead.
-/

namespace Checkin

/-- The variable that overrides the version. -/
def versionVariable : String := "KIJI_BENTO_VERSION"

namespace Version

/-- The part of the tool that speaks in the log. -/
def logger : String := "upgrade.version_info"

/-- The version in use: the overriding one if it is not empty, else the installed one. -/
def current : Action String := do
  let world ← Action.world
  match world.environment.nonempty? versionVariable with
  | some version => return version
  | none =>
    match world.packageVersion with
    | none => throw (.noVersion .notInstalled)
    | some "" => throw (.noVersion .blank)
    | some version =>
      Action.log .debug logger ("Read BentoBox version " ++ version ++ " from package metadata")
      return version

/-- Where a builder gets the version from. -/
inductive Source
  | current
  | value (v : Value)
  | failure (reason : String)
deriving Repr, Inhabited

/-- The version that a source gives, which has to be something. -/
def Source.get : Source → Action Value
  | .current => Value.text <$> Version.current
  | .value v => if v.isFalsy then throw (.noVersion .notReturned) else return v
  | .failure reason => throw (.noVersion (.reported reason))

end Version

end Checkin

import Checkin.Entries
import Checkin.Session
import Checkin.Value

/-!
# Platform properties

The upgrade server knows a platform by four properties under fixed keys. They are read from the live
platform on every look-up, unless values were given, which then count alone. A property without a
value, or with a value that is falsy, fails the look-up.
-/

namespace Checkin

/-- The keys of the operating system's name, version and architecture, and of the runtime's version. -/
def osName : String := "os.name"
def osVersion : String := "os.version"
def osArch : String := "os.arch"
def javaVersion : String := "java.version"

/-- The properties of a platform under their keys. -/
def Platform.properties (p : Platform) : List (String × String) :=
  [(osName, p.system), (osVersion, p.release), (osArch, p.machine), (javaVersion, p.runtimeVersion)]

/-- Where properties come from. -/
inductive Properties
  | live
  | given (values : List (String × Value))
deriving Repr, Inhabited

namespace Properties

/-- The value of a key, on a platform. -/
def get (properties : Properties) (platform : Platform) (key : String) : Except Failure Value :=
  let value? :=
    match properties with
    | .live => (platform.properties.lookup key).map Value.text
    | .given values => values.lookup key
  match value? with
  | none => .error (.noProperty key)
  | some value => if value.isFalsy then .error (.noProperty key) else .ok value

/-- The text that a value has inside another text. -/
def textOf (value : Value) : Except Failure String :=
  match value.text? with
  | some s => .ok s
  | none => .error .tooManyDigits

/-- Name, version and architecture of the operating system as one text. -/
def operatingSystem (properties : Properties) (platform : Platform) : Except Failure String := do
  let name ← properties.get platform osName
  let version ← properties.get platform osVersion
  let arch ← properties.get platform osArch
  return (← textOf name) ++ " " ++ (← textOf version) ++ " " ++ (← textOf arch)

/-- The version of the runtime. -/
def runtimeVersion (properties : Properties) (platform : Platform) : Except Failure Value :=
  properties.get platform javaVersion

/-- The given values with one changed or added; the live platform stays as it is. -/
def put (properties : Properties) (key : String) (value : Value) : Properties :=
  match properties with
  | .live => .live
  | .given values => .given (Entries.put values key value)

/-- The given values without one. -/
def erase (properties : Properties) (key : String) : Properties :=
  match properties with
  | .live => .live
  | .given values => .given (Entries.keep values (· ≠ key))

end Properties

end Checkin

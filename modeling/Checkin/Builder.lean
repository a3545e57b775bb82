import Checkin.Properties
import Checkin.Version

/-!
# Building messages

A caller supplies the two values that only it knows, the installation id and the time of last use. The
rest is looked up when the message is built, so a message is complete or there is none.
-/

namespace Checkin

/-- What has been supplied so far; `null` stands for nothing. -/
structure Builder where
  id : Value
  lastUsedMillis : Value
deriving Repr, Inhabited

namespace Builder

/-- A builder that has been supplied nothing. -/
def new : Builder := ⟨.null, .null⟩

/-- The builder with an installation id. -/
def withId (b : Builder) (id : Value) : Builder := { b with id }

/-- The builder with a time of last use. -/
def withLastUsedMillis (b : Builder) (millis : Value) : Builder := { b with lastUsedMillis := millis }

/-- The supplied values, which have to be there. Zero is a time of last use like any other. -/
def supplied (b : Builder) : Except Failure (Value × Value) :=
  if b.id.isFalsy then .error (.notSupplied .id)
  else
    match b.lastUsedMillis with
    | .null => .error (.notSupplied .lastUsed)
    | millis => .ok (b.id, millis)

/-- The message made of the supplied values and those looked up, which is valid or not there. -/
def assemble (operatingSystem : String) (bentoVersion javaVersion lastUsedMillis id : Value) :
    Except Failure Message :=
  let args : Message.Arguments :=
    [(Message.Field.operatingSystem.name, .text operatingSystem),
      (Message.Field.bentoVersion.name, bentoVersion),
      (Message.Field.javaVersion.name, javaVersion),
      (Message.Field.lastUsedMillis.name, lastUsedMillis),
      (Message.Field.id.name, id)]
  (Message.ofArguments args).mapError .notCarried

/-- The message. What is missing is reported in this order: the supplied values, the operating system,
the version, the runtime; then everything that is of the wrong kind. -/
def build (b : Builder) (properties : Properties) (version : Version.Source) : Action Message := do
  let (id, millis) ← Action.ofExcept b.supplied
  let platform := (← Action.world).platform
  let operatingSystem ← Action.ofExcept (properties.operatingSystem platform)
  let bentoVersion ← version.get
  let runtimeVersion ← Action.ofExcept (properties.runtimeVersion platform)
  Action.ofExcept (assemble operatingSystem bentoVersion runtimeVersion millis id)

end Builder

end Checkin

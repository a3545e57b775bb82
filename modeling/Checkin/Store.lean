import Checkin.Session
import Checkin.Text.CharacterClass
import Checkin.Value

/-!
# State files

Two flat files keep what the tool remembers: the installation id, and the time of last use. Each holds
one value and a line feed; when it is read, blank characters around the value do not count.
-/

namespace Checkin.Store

open Checkin.Text

/-- The text of the file that a path names, with its line breaks unified. -/
def readText (files : FileTree) (here : Place) (p : Path) : Except Failure String :=
  match files.read here p with
  | .error fault => .error (.system fault (some p.text))
  | .ok octets =>
    match decode octets with
    | .error fault => .error (.undecodable fault)
    | .ok text => .ok (String.ofList (unifyLineBreaks text.toList))

/-- The value in the text of a state file. -/
def valueIn (text : String) : String :=
  String.ofList (strip text.toList)

/-- The value in the state file that a path names. -/
def readValue (files : FileTree) (here : Place) (p : Path) : Except Failure String :=
  match readText files here p with
  | .error (.system .notFound _) => .error (.state (.notFound p.text))
  | .error failure => .error failure
  | .ok text =>
    let value := valueIn text
    if value = "" then .error (.state (.empty p.text)) else .ok value

/-- The installation id in a state file. -/
def readId (files : FileTree) (here : Place) (p : Path) : Except Failure String :=
  readValue files here p

/-- The time of last use in a state file. -/
def readLastUsed (files : FileTree) (here : Place) (p : Path) : Except Failure Int :=
  match readValue files here p with
  | .error failure => .error failure
  | .ok value =>
    match readNumeral? value.toList with
    | some n => .ok n
    | none => .error (.state (.notATimestamp p.text value))

/-- Writes a value to a state file, after making the directories above it. -/
def writeValue (p : Path) (value : String) : Action Unit := do
  let world ← Action.world
  let (made, files) := world.files.makeDirectories world.workingDirectory world.depth p.parent
  Action.setFiles files
  match made with
  | .error (fault, p) => throw (.system fault (some p.text))
  | .ok () =>
    let files ← Action.onPath p (files.write world.workingDirectory p (encode (value ++ "\n")))
    Action.setFiles files

/-- The part of the tool that speaks in the log. -/
def logger : String := "store"

/-- The installation id that is already in a state file. A file that is there but blank has none, which
is worth a warning. -/
def existingId? (p : Path) : Action (Option String) := do
  let world ← Action.world
  if ← Action.onPath p (world.files.exists? world.workingDirectory p) then
    let text ← Action.ofExcept (readText world.files world.workingDirectory p)
    let value := valueIn text
    if value = "" then
      Action.log .warning logger ("Id file " ++ p.text ++ " is blank, generating a new id")
      return none
    else return some value
  else return none

/-- The installation id in a state file, and whether it is new. An id that is there is never replaced;
a file that is missing or blank gets a new one. -/
def writeIdIfAbsent (p : Path) : Action (String × Bool) := do
  match ← existingId? p with
  | some id => return (id, false)
  | none =>
    let id := installationId (← Action.draw)
    writeValue p id
    return (id, true)

/-- The whole milliseconds that the clock shows. -/
def currentMillis : Action Int := do
  Action.ofExcept ((← Action.world).now.scale 1000).wholePart

/-- Writes a time of last use, by default the present one, and gives back what was written. -/
def writeLastUsed (p : Path) (millis : Value) : Action Value := do
  let value ←
    match millis with
    | .null => Value.int <$> currentMillis
    | value => pure value
  match value.text? with
  | none => throw .tooManyDigits
  | some text =>
    writeValue p text
    return value

end Checkin.Store

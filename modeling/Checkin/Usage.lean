import Checkin.Config
import Checkin.Store

/-!
# Usage tools

The two tools that keep the state files: one gives the installation an id, one records that the `kiji`
script was just used.
-/

namespace Checkin.Usage

/-- The parts of the tool that speak in the log. -/
def idLogger : String := "usage.uuid_generation"
def timestampLogger : String := "usage.usage_timestamp"

/-- Gives the installation an id unless it has one. -/
def generateId (cfg : Config) : Action String := do
  let (id, isNew) ← Store.writeIdIfAbsent cfg.idFile
  if isNew then
    Action.log .info idLogger ("Wrote new installation id to " ++ cfg.idFile.text)
  else
    Action.log .debug idLogger ("Installation id already present in " ++ cfg.idFile.text)
  return id

/-- The whole milliseconds that the log shows for a time of last use. -/
def wholeMillis : Value → Except Failure Int
  | .bool b => .ok (if b then 1 else 0)
  | .int n => .ok n
  | .float x => x.wholePart
  | value => .error (.notANumber value.kind)

/-- Records a time of last use, by default the present one. A value without whole milliseconds is written
before the log fails to show it. -/
def recordUse (cfg : Config) (millis : Value) : Action Value := do
  let written ← Store.writeLastUsed cfg.lastUsedFile millis
  let message := (wholeMillis written).map fun n =>
    "Recorded last use " ++ Text.numeral n ++ " in " ++ cfg.lastUsedFile.text
  Action.logComposed .debug timestampLogger message
  return written

end Checkin.Usage

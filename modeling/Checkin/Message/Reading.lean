import Checkin.Json.Reader
import Checkin.Message.Validation

/-!
# Reading messages

A message is read from a JSON object. The values of its members are checked as JSON has them: only a string
passes for a text, and only a number without fraction and power of ten for a whole number. Of a name that
is repeated the last value counts, in the first place.
-/

namespace Checkin.Message

/-- A JSON value that should be a text with at least one character. -/
def readText : Json.Value → Except Problem NonemptyText
  | .text s => if h : s = "" then .error .emptyText else .ok ⟨s, h⟩
  | _ => .error .notText

/-- A JSON value that should be a time of last use. -/
def readMillis : Json.Value → Except Problem Millis
  | .int n =>
    if above : maxMillis < n then .error .aboveMaximum
    else if below : n < minMillis then .error .belowMinimum
    else .ok ⟨n, millis_fits above below⟩
  | _ => .error .notInteger

/-- A JSON value that should be the constant of a field. -/
def readConstant (expected : String) : Json.Value → Except Problem Unit
  | .text s => if s = expected then .ok () else .error (.notConstant expected)
  | _ => .error (.notConstant expected)

/-- The message that a JSON text is written for. -/
def read (s : String) : Except Report Message :=
  match Json.read? s with
  | none => .error .notJson
  | some (.object members) => validate ⟨readText, readMillis, readConstant⟩ (Entries.distinct members)
  | some _ => .error .notAnObject

end Checkin.Message

import Checkin.Json.Writer
import Checkin.Text.Numeral

/-!
# Check-in messages

A check-in tells the upgrade server which BentoBox version runs on which platform, under which
anonymous installation id, and when the `kiji` script was last used. A `Message` is valid by its type:
its texts are not empty and its time of last use fits a signed 64-bit integer. Two of the seven fields,
the kind of message and the version of its format, are the same in every message.

The upgrade server receives a message as one compact JSON object with the seven fields in their order,
under the server's names for them.
-/

namespace Checkin

/-- A text with at least one character. -/
abbrev NonemptyText := { s : String // s ≠ "" }

/-- The least time of last use, in milliseconds since 1970: the least signed 64-bit integer. -/
def minMillis : Int := -9223372036854775808

/-- The greatest time of last use, in milliseconds since 1970: the greatest signed 64-bit integer. -/
def maxMillis : Int := 9223372036854775807

/-- Milliseconds since 1970, as a signed 64-bit integer holds them. -/
abbrev Millis := { n : Int // minMillis ≤ n ∧ n ≤ maxMillis }

/-- A check-in message. -/
structure Message where
  operatingSystem : NonemptyText
  bentoVersion : NonemptyText
  javaVersion : NonemptyText
  lastUsedMillis : Millis
  id : NonemptyText
deriving DecidableEq

namespace Message

/-- The kind of every check-in message. -/
def type : String := "checkversion"

/-- The format of every check-in message. -/
def format : String := "bento-checkin-1.0.0"

/-- The fields of a message, in the order in which they are written. -/
inductive Field
  | type
  | format
  | operatingSystem
  | bentoVersion
  | javaVersion
  | lastUsedMillis
  | id
deriving DecidableEq, Repr

namespace Field

/-- All fields in order. -/
def all : List Field :=
  [.type, .format, .operatingSystem, .bentoVersion, .javaVersion, .lastUsedMillis, .id]

/-- The name by which a caller may supply the field. -/
def name : Field → String
  | .type => "type"
  | .format => "format"
  | .operatingSystem => "operating_system"
  | .bentoVersion => "bento_version"
  | .javaVersion => "java_version"
  | .lastUsedMillis => "last_used_millis"
  | .id => "id"

/-- The name by which the upgrade server knows the field, which a caller may use as well. -/
def wireName : Field → String
  | .format => "request_format"
  | .operatingSystem => "os"
  | .lastUsedMillis => "last_used"
  | field => field.name

end Field

/-! ## Wire form -/

open Checkin.Json

/-- The written value of each field. -/
def fieldChars (m : Message) : Field → List Char
  | .type => stringChars type
  | .format => stringChars format
  | .operatingSystem => stringChars m.operatingSystem
  | .bentoVersion => stringChars m.bentoVersion
  | .javaVersion => stringChars m.javaVersion
  | .lastUsedMillis => Text.numeralChars m.lastUsedMillis
  | .id => stringChars m.id

/-- The wire form of a message. -/
def wire (m : Message) : String :=
  String.ofList (objectChars (Field.all.map fun field => (field.wireName, m.fieldChars field)))

end Message

end Checkin

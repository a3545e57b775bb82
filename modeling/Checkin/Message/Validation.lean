import Checkin.Entries
import Checkin.Message
import Checkin.Text.Numeral
import Checkin.Text.Utf8
import Checkin.Value

/-!
# Validation of messages

A message is made from named values. Each field is looked up under the server's name for it first and
under its own name second, and its value is checked. Everything that is wrong is reported at once: the
fields in their order, then the names that belong to no field, in the order given. A caller's value has
to be of the right kind as it stands, except that octets which hold UTF-8 pass for the text they hold.

A message that exists is never changed: assigning or removing a field is reported as a problem too.
-/

namespace Checkin

/-- What is wrong with a field or a name. -/
inductive Problem
  | missing
  | notText
  | notUtf8
  | emptyText
  | notInteger
  | aboveMaximum
  | belowMinimum
  | notConstant (expected : String)
  | unexpected
  | frozen
deriving DecidableEq, Repr

/-- A problem and the name it was met under. -/
structure Complaint where
  name : String
  problem : Problem
deriving DecidableEq, Repr

/-- Why there is no message: problems with fields, or an input that has no fields at all. -/
inductive Report
  | fields (complaints : List Complaint)
  | notAnObject
  | notJson
deriving DecidableEq, Repr

namespace Problem

/-- The sentence that describes a problem, with its code. -/
def text : Problem → String
  | missing => "Field required [type=missing]"
  | notText => "Input should be a valid string [type=string_type]"
  | notUtf8 =>
    "Input should be a valid string, unable to parse raw data as a unicode string [type=string_unicode]"
  | emptyText => "String should have at least 1 character [type=string_too_short]"
  | notInteger => "Input should be a valid integer [type=int_type]"
  | aboveMaximum => "Input should be less than or equal to 9223372036854775807 [type=less_than_equal]"
  | belowMinimum =>
    "Input should be greater than or equal to -9223372036854775808 [type=greater_than_equal]"
  | notConstant expected => "Input should be '" ++ expected ++ "' [type=literal_error]"
  | unexpected => "Extra inputs are not permitted [type=extra_forbidden]"
  | frozen => "Instance is frozen [type=frozen_instance]"

end Problem

/-- The name of a complaint as it is shown: one with a dot stands between grave accents, because a dot
by itself would seem to part two names. -/
def Complaint.shownName (c : Complaint) : String :=
  if c.name.toList.contains '.' then "`" ++ c.name ++ "`" else c.name

/-- The lines that show a complaint. -/
def Complaint.text (c : Complaint) : String :=
  "\n" ++ c.shownName ++ "\n  " ++ c.problem.text

/-- The text of a report: a count, then each problem under its name. -/
def Report.text : Report → String
  | .fields complaints =>
    let noun := if complaints.length = 1 then " validation error" else " validation errors"
    Text.numeral complaints.length ++ noun ++ " for CheckinMessage"
      ++ String.join (complaints.map Complaint.text)
  | .notAnObject =>
    "1 validation error for CheckinMessage\n  Input should be an object [type=model_type]"
  | .notJson => "1 validation error for CheckinMessage\n  Invalid JSON [type=json_invalid]"

namespace Message

/-! ## Checking values -/

/-- Named values for the fields of a message. -/
abbrev Arguments := List (String × Value)

/-- A value that should be a text with at least one character. -/
def checkText : Value → Except Problem NonemptyText
  | .text s => if h : s = "" then .error .emptyText else .ok ⟨s, h⟩
  | .octets bs =>
    match Text.decode bs with
    | .error _ => .error .notUtf8
    | .ok s => if h : s = "" then .error .emptyText else .ok ⟨s, h⟩
  | _ => .error .notText

theorem millis_fits {n : Int} (above : ¬maxMillis < n) (below : ¬n < minMillis) :
    minMillis ≤ n ∧ n ≤ maxMillis :=
  ⟨Int.not_lt.1 below, Int.not_lt.1 above⟩

/-- A value that should be a time of last use. -/
def checkMillis : Value → Except Problem Millis
  | .int n =>
    if above : maxMillis < n then .error .aboveMaximum
    else if below : n < minMillis then .error .belowMinimum
    else .ok ⟨n, millis_fits above below⟩
  | _ => .error .notInteger

/-- A value that should be the constant of a field. -/
def checkConstant (expected : String) : Value → Except Problem Unit
  | .text s => if s = expected then .ok () else .error (.notConstant expected)
  | _ => .error (.notConstant expected)

/-! ## Checking fields -/

/-- The checks that values of one sort have to pass. -/
structure Checks (β : Type) where
  text : β → Except Problem NonemptyText
  millis : β → Except Problem Millis
  constant (expected : String) : β → Except Problem Unit

section Fields

variable {α β : Type}

/-- The name under which a field is supplied, and the value: the server's name for it wins. -/
def Field.supplied? (field : Field) (args : List (String × β)) : Option (String × β) :=
  match Entries.last? args field.wireName with
  | some value => some (field.wireName, value)
  | none => (Entries.last? args field.name).map (field.name, ·)

/-- The checked value of a field that has to be supplied. -/
def required (args : List (String × β)) (field : Field) (check : β → Except Problem α) : Except Complaint α :=
  match field.supplied? args with
  | none => .error ⟨field.wireName, .missing⟩
  | some (name, value) => (check value).mapError (⟨name, ·⟩)

/-- A field with a constant value, which need not be supplied. -/
def constant (args : List (String × β)) (field : Field) (check : β → Except Problem Unit) :
    Except Complaint Unit :=
  match field.supplied? args with
  | none => .ok ()
  | some (name, value) => (check value).mapError (⟨name, ·⟩)

/-- The names that supply no field. -/
def unexpected (args : List (String × β)) : List Complaint :=
  let used := Field.all.filterMap fun field => (field.supplied? args).map (·.1)
  (args.filter fun arg => !used.contains arg.1).map fun arg => ⟨arg.1, .unexpected⟩

/-- What a check complains about. -/
def complaint? : Except Complaint α → Option Complaint
  | .ok _ => none
  | .error c => some c

/-- The message that named values make, or everything that keeps them from making one. -/
def validate (checks : Checks β) (args : List (String × β)) : Except Report Message :=
  let type := constant args .type (checks.constant Message.type)
  let format := constant args .format (checks.constant Message.format)
  let operatingSystem := required args .operatingSystem checks.text
  let bentoVersion := required args .bentoVersion checks.text
  let javaVersion := required args .javaVersion checks.text
  let lastUsedMillis := required args .lastUsedMillis checks.millis
  let id := required args .id checks.text
  let extra := unexpected args
  match type, format, operatingSystem, bentoVersion, javaVersion, lastUsedMillis, id, extra with
  | .ok _, .ok _, .ok operatingSystem, .ok bentoVersion, .ok javaVersion, .ok lastUsedMillis, .ok id,
    [] => .ok { operatingSystem, bentoVersion, javaVersion, lastUsedMillis, id }
  | _, _, _, _, _, _, _, _ =>
    .error (.fields
      ([complaint? type, complaint? format, complaint? operatingSystem, complaint? bentoVersion,
        complaint? javaVersion, complaint? lastUsedMillis, complaint? id].filterMap (·) ++ extra))

end Fields

/-- The message that a caller's named values make, or why they make none. -/
def ofArguments (args : Arguments) : Except Report Message :=
  validate ⟨checkText, checkMillis, checkConstant⟩ args

/-! ## Attributes -/

/-- Whether a name is kept for what an object itself is made of: it begins with two underscores, or it is the
name by which attributes are set. -/
def isReserved (name : String) : Bool :=
  ['_', '_'].isPrefixOf name.toList || name == "_setattr_handler"

/-- What a caller may try to put on a message: anything under a name that is not kept for its making. -/
structure Attribute where
  name : String
  value : Value
  free : isReserved name = false

/-- Whether an attribute stands beside the fields: its name begins with an underscore. -/
def Attribute.isPrivate (a : Attribute) : Bool :=
  a.name.toList.head? == some '_'

/-- What becomes of a message when an attribute is assigned to it. One that stands beside the fields leaves them
as they are, and no other is taken. -/
def assign (m : Message) (a : Attribute) : Except Report Message :=
  if a.isPrivate then .ok m else .error (.fields [⟨a.name, .frozen⟩])

/-- Nothing can be taken away from a message. -/
def remove (_ : Message) (name : String) : Except Report Message :=
  .error (.fields [⟨name, .frozen⟩])

end Message

end Checkin

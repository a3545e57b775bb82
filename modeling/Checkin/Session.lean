import Checkin.Clock
import Checkin.Failure
import Checkin.World

/-!
# Sessions

A `Session` is the world that the tool finds around it together with what it says: log records, standard
output and standard error.

An `Action` is a step in a session. It may fail, and what it did before stays done. Writing a log record
is such a step: a record bears the time, so it fails while the clock shows none.
-/

namespace Checkin

/-! ## Log records -/

/-- How much a log record matters. -/
inductive Level
  | debug
  | info
  | warning
  | error
deriving DecidableEq, Repr

/-- The name of a level. -/
def Level.name : Level → String
  | .debug => "DEBUG"
  | .info => "INFO"
  | .warning => "WARNING"
  | .error => "ERROR"

/-- The place of a level among the levels. -/
def Level.rank : Level → Nat
  | .debug => 0
  | .info => 1
  | .warning => 2
  | .error => 3

/-- A log record: how much it matters, which part of the tool speaks, and what it says. -/
structure Record where
  level : Level
  logger : String
  message : String
deriving DecidableEq, Repr

/-- A record without its time. -/
def Record.summary (r : Record) : String :=
  r.level.name ++ " " ++ r.logger ++ ": " ++ r.message

/-- A record as a line of the log. -/
def Record.line (r : Record) (now : Binary64) : String :=
  Clock.stamp now ++ " " ++ r.summary ++ "\n"

/-- Where log records go. -/
inductive Sink
  /-- Nobody has said where; warnings and errors go to standard error, as bare messages. -/
  | unsettled
  /-- Nowhere but to the journal of the session, which gets all of them. -/
  | journal
  | standardError (threshold : Level)
  /-- The file at a location, at whose end each record is written. -/
  | file (threshold : Level) (location : Location)
deriving DecidableEq, Repr, Inhabited

/-- The level from which on records are written. -/
def Sink.threshold : Sink → Level
  | .unsettled => .warning
  | .journal => .debug
  | .standardError threshold => threshold
  | .file threshold _ => threshold

/-- Whether records of a level are written. -/
def Sink.shows (sink : Sink) (level : Level) : Bool :=
  sink.threshold.rank ≤ level.rank

/-! ## Sessions and actions -/

/-- A world, and what the tool says in it. -/
structure Session where
  world : World
  sink : Sink
  /-- The log records that were written, wherever they went. -/
  journal : List Record
  output : String
  errors : String
deriving Inhabited

namespace Session

/-- A session in which nothing has been said. -/
def start (world : World) (sink : Sink) : Session :=
  ⟨world, sink, [], "", ""⟩

/-- The session after a log record was written. -/
def write (s : Session) (r : Record) : Session :=
  let s := { s with journal := s.journal ++ [r] }
  match s.sink with
  | .unsettled => { s with errors := s.errors ++ r.message ++ "\n" }
  | .journal => s
  | .standardError _ => { s with errors := s.errors ++ r.line s.world.now }
  | .file _ location =>
    let files := s.world.files.append location (Text.encode (r.line s.world.now))
    { s with world := { s.world with files } }

end Session

/-- A step in a session. -/
abbrev Action := ExceptT Failure (StateM Session)

namespace Action

/-- The world as it is now. -/
def world : Action World := do
  return (← get).world

/-- Puts other files in the place of those there are. -/
def setFiles (files : FileTree) : Action Unit :=
  modify fun s => { s with world := { s.world with files } }

/-- Prints a line on standard output. -/
def print (line : String) : Action Unit :=
  modify fun s => { s with output := s.output ++ line ++ "\n" }

/-- The next random draw. -/
def draw : Action Draw := do
  let s ← get
  match s.world.draws with
  | [] => return .zeros
  | first :: rest =>
    set { s with world := { s.world with draws := rest } }
    return first

/-- What a use of a path gives, its fault being a failure of the system. -/
def onPath {α : Type} (p : Path) : Except Fault α → Action α
  | .ok a => return a
  | .error fault => throw (.system fault (some p.text))

/-- What a computation gives. -/
def ofExcept {α : Type} : Except Failure α → Action α
  | .ok a => return a
  | .error failure => throw failure

/-- Writes a log record if its level is shown. The time is taken first and the message composed then,
and neither is done for a record that is not written. -/
def logComposed (level : Level) (logger : String) (message : Except Failure String) : Action Unit := do
  if (← get).sink.shows level then
    discard (ofExcept (← world).now.wholePart)
    let message ← ofExcept message
    modify (·.write ⟨level, logger, message⟩)

/-- Writes a log record with a message that is there already. -/
def log (level : Level) (logger message : String) : Action Unit :=
  logComposed level logger (.ok message)

end Action

end Checkin

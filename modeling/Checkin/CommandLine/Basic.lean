import Checkin.Text.Quoted

/-!
# Commands and options

A command line is options, a command, and the command's own options. This module names them, the
settings they make, and the reasons for refusing a command line.
-/

namespace Checkin.CommandLine

open Checkin.Text

/-- The commands. -/
inductive Command
  | generateUuid
  | recordUsage
  | checkin
  | env
deriving DecidableEq, Repr

namespace Command

/-- All commands, in the order in which they are listed. -/
def all : List Command := [.generateUuid, .recordUsage, .checkin, .env]

/-- The word that gives a command. -/
def name : Command → String
  | .generateUuid => "generate-uuid"
  | .recordUsage => "record-usage"
  | .checkin => "checkin"
  | .env => "env"

/-- The command that a word gives. -/
def ofName? (word : String) : Option Command :=
  all.find? (·.name == word)

end Command

/-- The options. -/
inductive Flag
  | help
  | logFile
  | verbose
  | kijiHome
deriving DecidableEq, Repr

namespace Flag

/-- The spellings of an option. -/
def spellings : Flag → List String
  | .help => ["-h", "--help"]
  | .logFile => ["--log-file"]
  | .verbose => ["-v", "--verbose"]
  | .kijiHome => ["--kiji-home"]

/-- Whether an option has an argument. -/
def hasArgument : Flag → Bool
  | .logFile | .kijiHome => true
  | .help | .verbose => false

/-- An option as messages call it. -/
def title (flag : Flag) : String :=
  "/".intercalate flag.spellings

end Flag

/-- Where an argument stands: before the command, or after it. -/
inductive Scope
  | tool
  | command (c : Command)
deriving DecidableEq, Repr

/-- The options that may stand in a scope. -/
def Scope.flags : Scope → List Flag
  | .tool => [.help, .logFile, .verbose]
  | .command .env => [.help, .kijiHome]
  | .command _ => [.help]

/-- The spellings of the options of a scope, with the option each spells. -/
def Scope.spellings (scope : Scope) : List (String × Flag) :=
  scope.flags.flatMap fun flag => flag.spellings.map (·, flag)

/-- What the options ask for. -/
structure Settings where
  logFile : Option String
  verbose : Bool
  kijiHome : Option String
deriving DecidableEq, Repr

/-- The settings before any option. -/
def Settings.default : Settings := ⟨none, false, none⟩

/-- Why a command line is refused. -/
inductive Rejection
  | ambiguous (arg : String) (candidates : List String)
  | argumentExpected (flag : Flag)
  | argumentIgnored (flag : Flag) (argument : String)
  | unknownCommand (word : String)
  | commandMissing
  | unrecognized (args : List String)
deriving DecidableEq, Repr

/-- The sentence that says why a command line is refused. -/
def Rejection.text : Rejection → String
  | .ambiguous arg candidates =>
    "ambiguous option: " ++ arg ++ " could match " ++ ", ".intercalate candidates
  | .argumentExpected flag => "argument " ++ flag.title ++ ": expected one argument"
  | .argumentIgnored flag argument =>
    "argument " ++ flag.title ++ ": ignored explicit argument " ++ quoted argument
  | .unknownCommand word =>
    let choices := ", ".intercalate (Command.all.map fun c => quoted c.name)
    "argument command: invalid choice: " ++ quoted word ++ " (choose from " ++ choices ++ ")"
  | .commandMissing => "the following arguments are required: command"
  | .unrecognized args => "unrecognized arguments: " ++ " ".intercalate args

end Checkin.CommandLine

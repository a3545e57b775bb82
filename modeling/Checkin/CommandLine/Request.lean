import Checkin.CommandLine.Token

/-!
# Requests

`parse` says what a command line asks for: a command to be run with some settings, help, or nothing
because it is refused. Options of one letter may share a dash, and the argument of an option may be the
word after it.
-/

namespace Checkin.CommandLine

/-- The options that one token gives, each with its argument if that is part of the token. After an
option of one letter without an argument, further letters are options of their own. -/
def flagsOf (scope : Scope) (flag : Flag) (spelling : List Char) :
    Option (List Char) → Except Rejection (List (Flag × Option String))
  | none => .ok [(flag, none)]
  | some argument =>
    if flag.hasArgument then .ok [(flag, some (String.ofList argument))]
    else
      match spelling[1]?, argument with
      | some '-', _ | none, _ | _, [] => .error (.argumentIgnored flag (String.ofList argument))
      | _, c :: rest =>
        match scope.spellings.lookup (String.ofList ['-', c]) with
        | none => .error (.argumentIgnored flag (String.ofList argument))
        | some next => do
          let more ← flagsOf scope next ['-', c] (if rest = [] then none else some rest)
          return (flag, none) :: more
termination_by argument => argument.elim 0 fun cs => cs.length + 1
decreasing_by
  split <;> simp_all

/-- What comes of reading arguments. -/
inductive Reading
  /-- Help was asked for. -/
  | help
  | rejected (r : Rejection)
  /-- A word that has to be the command, and what follows it. -/
  | command (word : String) (rest : List Token) (settings : Settings) (extra : List String)
  | done (settings : Settings) (extra : List String)
deriving Repr

/-- The argument that an option takes from a text. The mark is dropped even there, and leaves nothing. -/
def argumentOf (s : String) : String :=
  if s = "--" then "" else s

/-- The settings after an option, unless it asks for help. -/
def applyFlag (settings : Settings) (flag : Flag) (argument : String) : Option Settings :=
  match flag with
  | .help => none
  | .verbose => some { settings with verbose := true }
  | .logFile => some { settings with logFile := some (argumentOf argument) }
  | .kijiHome => some { settings with kijiHome := some (argumentOf argument) }

/-- The settings after some options, unless one asks for help. `next` is the argument for those that
have one and do not bring it along. -/
def applyFlags (settings : Settings) (next : String) : List (Flag × Option String) → Option Settings
  | [] => some settings
  | (flag, argument) :: flags =>
    (applyFlag settings flag (argument.getD next)).bind fun settings => applyFlags settings next flags

/-- The last option of a token, if its argument has to follow the token. -/
def pending? (flags : List (Flag × Option String)) : Option Flag :=
  match flags.getLast? with
  | some (flag, none) => if flag.hasArgument then some flag else none
  | _ => none

/-- Reads tokens from left to right. Before the command, the first word ends the reading; after it,
words are left over like unknown options. -/
def readTokens (scope : Scope) (settings : Settings) (extra : List String) (tokens : List Token) :
    Reading :=
  match tokens with
  | [] => .done settings extra
  | .unknown arg :: rest => readTokens scope settings (extra ++ [arg]) rest
  | .word s :: rest =>
    if scope = .tool then .command s rest settings extra
    else readTokens scope settings (extra ++ [s]) rest
  | .mark :: rest =>
    if scope = .tool && !rest.isEmpty then .command "--" rest settings extra
    else readTokens scope settings (extra ++ ["--"]) rest
  | .option _ flag spelling argument :: rest =>
    match flagsOf scope flag spelling.toList (argument.map String.toList) with
    | .error r => .rejected r
    | .ok flags =>
      match pending? flags, rest with
      | none, rest =>
        match applyFlags settings "" flags with
        | some settings => readTokens scope settings extra rest
        | none => .help
      | some _, .word next :: rest =>
        match applyFlags settings next flags with
        | some settings => readTokens scope settings extra rest
        | none => .help
      | some flag, _ => .rejected (.argumentExpected flag)
termination_by tokens.length

/-- What a command line asks for. The scope is the one whose usage is shown. -/
inductive Request
  | run (command : Command) (settings : Settings)
  | help (scope : Scope)
  | reject (scope : Scope) (r : Rejection)
deriving Repr

/-- Reads the arguments of a command. What is left over is the whole tool's to refuse. -/
def parseCommand (command : Command) (settings : Settings) (extra : List String) (args : List String) :
    Request :=
  match classifyAll (.command command) args with
  | .error r => .reject (.command command) r
  | .ok tokens =>
    match readTokens (.command command) settings [] tokens with
    | .help => .help (.command command)
    | .rejected r => .reject (.command command) r
    | .command _ _ _ _ => .reject (.command command) .commandMissing
    | .done settings more =>
      if extra ++ more = [] then .run command settings
      else .reject .tool (.unrecognized (extra ++ more))

/-- What arguments ask for. -/
def parse (args : List String) : Request :=
  match classifyAll .tool args with
  | .error r => .reject .tool r
  | .ok tokens =>
    match readTokens .tool .default [] tokens with
    | .help => .help .tool
    | .rejected r => .reject .tool r
    | .done _ _ => .reject .tool .commandMissing
    | .command word rest settings extra =>
      match Command.ofName? word with
      | none => .reject .tool (.unknownCommand word)
      | some command => parseCommand command settings extra (rest.map Token.arg)

end Checkin.CommandLine

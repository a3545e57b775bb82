import Checkin.CommandLine.Basic

/-!
# Usage and help

What the tool prints when it is asked for help, and in front of the reason when it refuses a command
line. Lines are laid out for 80 columns.
-/

namespace Checkin.CommandLine

namespace Scope

/-- The name by which messages call the tool, with the command. -/
def program : Scope → String
  | .tool => "kiji-bento"
  | .command c => "kiji-bento " ++ c.name

/-- The commands as a choice between braces. -/
def commandChoice : String :=
  "\x7b" ++ ",".intercalate (Command.all.map Command.name) ++ "\x7d"

/-- The usage of a scope. -/
def usage : Scope → String
  | .tool =>
    "usage: kiji-bento [-h] [--log-file LOG_FILE] [-v]\n"
      ++ "                  " ++ commandChoice ++ " ...\n"
  | .command .env => "usage: kiji-bento env [-h] [--kiji-home KIJI_HOME]\n"
  | .command c => "usage: kiji-bento " ++ c.name ++ " [-h]\n"

/-- The help for a scope. -/
def help (scope : Scope) : String :=
  scope.usage ++
    match scope with
    | .tool =>
      "\nKiji BentoBox tooling\n"
        ++ "\npositional arguments:\n"
        ++ "  " ++ commandChoice ++ "\n"
        ++ "    generate-uuid       write an anonymous installation id unless one exists\n"
        ++ "    record-usage        record the current time as the last kiji usage\n"
        ++ "    checkin             print the upgrade check-in message as JSON\n"
        ++ "    env                 print shell exports for this distribution\n"
        ++ "\noptions:\n"
        ++ "  -h, --help            show this help message and exit\n"
        ++ "  --log-file LOG_FILE   write log output to this file instead of stderr\n"
        ++ "  -v, --verbose         log debug output\n"
    | .command .env =>
      "\noptions:\n"
        ++ "  -h, --help            show this help message and exit\n"
        ++ "  --kiji-home KIJI_HOME\n"
        ++ "                        distribution root (default: $KIJI_HOME or cwd)\n"
    | .command _ =>
      "\noptions:\n"
        ++ "  -h, --help  show this help message and exit\n"

/-- What is printed when a command line is refused. -/
def refusal (scope : Scope) (r : Rejection) : String :=
  scope.usage ++ scope.program ++ ": error: " ++ r.text ++ "\n"

end Scope

end Checkin.CommandLine

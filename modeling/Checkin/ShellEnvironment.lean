import Checkin.FileTree.Resolution
import Checkin.Session

/-!
# Shell environment of a distribution

A shell configures itself for a distribution by evaluating lines that export variables: the
distribution's root, its cluster, the Hadoop and HBase in it, and a search path with their programs in
front. Of several Hadoops or HBases the one with the least name counts.

A POSIX shell takes a word literally when every character of it stands for itself outside quotes, or
when it stands between single quotes, inside which no character is special. A single quote cannot
stand between single quotes, so each is written between double quotes, outside the single ones.
-/

namespace Checkin.Text

/-- The characters that stand for themselves outside quotes wherever they occur in a word. -/
def isShellSafe (c : Char) : Bool :=
  c.isAlphanum || c == '_' || c == '@' || c == '%' || c == '+' || c == '=' || c == ':' || c == ','
    || c == '.' || c == '/' || c == '-'

/-- A character as it stands between single quotes. -/
def shellQuotedChar (c : Char) : List Char :=
  if c = '\'' then ['\'', '"', '\'', '"', '\''] else [c]

/-- The characters of a text as one shell word. -/
def shellWordChars (cs : List Char) : List Char :=
  if !cs.isEmpty && cs.all isShellSafe then cs
  else '\'' :: cs.flatMap shellQuotedChar ++ ['\'']

/-- A text as one shell word, which a shell reads back as the text itself. -/
def shellWord (s : String) : String :=
  String.ofList (shellWordChars s.toList)

end Checkin.Text

namespace Checkin.ShellEnvironment

/-- The part of the tool that speaks in the log. -/
def logger : String := "kiji_env"

/-- The least of some names, in the order of their characters. -/
def leastName? : List String → Option String
  | [] => none
  | name :: names =>
    match leastName? names with
    | none => some name
    | some least => if least < name then some least else some name

/-- The names, among those that start with a stem, of the directories that a directory holds, links
followed. -/
def directoriesWithStem (lib : Path) (stem : String) : Action (List String) := do
  let world ← Action.world
  let here := world.workingDirectory
  let place ← Action.onPath lib (world.files.find here lib .target)
  let names := (world.files.childNames place.location).filter fun name =>
    stem.toList.isPrefixOf name.toList
  names.filterM fun name => Action.onPath (lib.child name) (world.files.isDirectory here (lib.child name))

/-- The directory in `lib` whose name starts with a stem, if `lib` is a directory that holds one. -/
def findDistribution (lib : Path) (stem : String) : Action (Option Path) := do
  let world ← Action.world
  if ← Action.onPath lib (world.files.isDirectory world.workingDirectory lib) then
    return (leastName? (← directoriesWithStem lib stem)).map lib.child
  else return none

/-- Looks for a distribution and warns when there is none. -/
def requireDistribution (lib : Path) (stem : String) : Action (Option Path) := do
  match ← findDistribution lib stem with
  | some home => return some home
  | none =>
    Action.log .warning logger ("No " ++ stem ++ "* distribution found under " ++ lib.text)
    return none

/-- The variables, when it is known which distributions there are. -/
def exportsFor (kijiHome : Path) (hadoop hbase : Option Path) (path : String) : List (String × String) :=
  let cluster := kijiHome.child "cluster"
  let bins :=
    [kijiHome.child "bin", (kijiHome.child "schema-shell").child "bin", cluster.child "bin"]
      ++ hadoop.toList.map (·.child "bin") ++ hbase.toList.map (·.child "bin")
  let entries := bins.map Path.text ++ (if path = "" then [] else [path])
  [("KIJI_HOME", kijiHome.text), ("BENTO_CLUSTER_HOME", cluster.text)]
    ++ hadoop.toList.map (("HADOOP_HOME", ·.text))
    ++ hbase.toList.map (("HBASE_HOME", ·.text))
    ++ [("PATH", ":".intercalate entries)]

/-- The variables for the distribution in a directory, with a search path to be kept. -/
def compute (kijiHome : Path) (path : String) : Action (List (String × String)) := do
  let lib := (kijiHome.child "cluster").child "lib"
  let hadoop ← requireDistribution lib "hadoop-"
  let hbase ← requireDistribution lib "hbase-"
  return exportsFor kijiHome hadoop hbase path

/-- The line that exports a variable. -/
def exportLine (entry : String × String) : String :=
  "export " ++ entry.1 ++ "=" ++ Text.shellWord entry.2

/-- The lines that export variables. -/
def exportLines (exports : List (String × String)) : String :=
  "\n".intercalate (exports.map exportLine)

end Checkin.ShellEnvironment

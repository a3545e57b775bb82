import Checkin.CommandLine.Basic
import Checkin.Text.Numeral

/-!
# Tokens of command lines

Every argument is told apart before any is read: an option, which may be shortened as long as it stays
unambiguous and may bring its argument along after an equals sign, or a word. After the mark `--` all
arguments are words.
-/

namespace Checkin.CommandLine

open Checkin.Text

/-- An argument, told apart: a word; the mark that makes words of all arguments after it; an option
under one of its spellings, perhaps with an argument of its own; or an option that the scope does not
know. -/
inductive Token
  | word (s : String)
  | mark
  | option (arg : String) (flag : Flag) (spelling : String) (argument : Option String)
  | unknown (arg : String)
deriving DecidableEq, Repr

/-- A token as it was given. -/
def Token.arg : Token → String
  | .word s => s
  | .mark => "--"
  | .option arg _ _ _ => arg
  | .unknown arg => arg

/-- An argument's parts before and after its first equals sign. -/
def splitAtEquals (cs : List Char) : List Char × Option (List Char) :=
  match cs.span (· != '=') with
  | (before, _ :: after) => (before, some after)
  | (before, []) => (before, none)

/-- Whether characters are digits with at most one point before the last one. -/
def isUnsignedNumber (cs : List Char) : Bool :=
  match cs.span isDecimalDigit with
  | (_ :: _, []) => true
  | (_, '.' :: fraction) => !fraction.isEmpty && fraction.all isDecimalDigit
  | _ => false

/-- Whether an argument is a negative number, which is a word and no option. A line feed at its end
does not count. -/
def isNegativeNumber (cs : List Char) : Bool :=
  match cs with
  | '-' :: cs =>
    isUnsignedNumber cs || (cs.getLast? == some '\n' && isUnsignedNumber cs.dropLast)
  | _ => false

/-- The options that an argument may be short for, as tokens. -/
def candidates (scope : Scope) (arg : String) : List Token :=
  let starts := fun (spelling : String) (cs : List Char) => cs.isPrefixOf spelling.toList
  match arg.toList with
  | '-' :: '-' :: _ =>
    let (before, after) := splitAtEquals arg.toList
    (scope.spellings.filter fun s => starts s.1 before).map fun s =>
      .option arg s.2 s.1 (after.map String.ofList)
  | cs@('-' :: _ :: rest) =>
    scope.spellings.filterMap fun s =>
      if s.1.toList = cs.take 2 then some (.option arg s.2 s.1 (some (String.ofList rest)))
      else if starts s.1 cs then some (.option arg s.2 s.1 none)
      else none
  | _ => []

/-- The token that an argument is, where options may stand. -/
def classify (scope : Scope) (arg : String) : Except Rejection Token :=
  let exact := fun (spelling : String) => scope.spellings.lookup spelling
  match arg.toList with
  | '-' :: _ :: _ =>
    match exact arg with
    | some flag => .ok (.option arg flag arg none)
    | none =>
      let (before, after) := splitAtEquals arg.toList
      match exact (String.ofList before), after with
      | some flag, some after => .ok (.option arg flag (String.ofList before) (some (String.ofList after)))
      | _, _ =>
        match candidates scope arg with
        | [token] => .ok token
        | [] =>
          if isNegativeNumber arg.toList || arg.toList.contains ' ' then .ok (.word arg)
          else .ok (.unknown arg)
        | tokens =>
          .error (.ambiguous arg (tokens.filterMap fun token =>
            match token with
            | .option _ _ spelling _ => some spelling
            | _ => none))
  | _ => .ok (.word arg)

/-- The tokens that arguments are. -/
def classifyAll (scope : Scope) : List String → Except Rejection (List Token)
  | [] => .ok []
  | arg :: args =>
    if arg = "--" then .ok (.mark :: args.map .word)
    else do
      let token ← classify scope arg
      return token :: (← classifyAll scope args)

end Checkin.CommandLine

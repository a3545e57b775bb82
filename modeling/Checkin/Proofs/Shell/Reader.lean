/-!
# How a shell reads command lines

A POSIX shell takes its input apart into words and operators before it does anything else. Blanks part
words, line feeds end command lines, a number sign at the start of a word opens a comment, and quotes of
three kinds take the special meaning away from what they protect: the backslash from the next character,
single quotes from everything, double quotes from everything but the dollar sign, the grave accent and the
backslash in front of some characters.

`commands?` gives the commands of a text that runs as it stands: words only, in which nothing is left to be
expanded. It says nothing about a text with operators or expansions, or with a quote that is not closed.
-/

namespace Checkin.Shell

/-- A character of a word, and whether a quote protects it. -/
structure Letter where
  char : Char
  isQuoted : Bool
deriving DecidableEq, Repr

/-- What a text is taken apart into. -/
inductive Token
  | word (letters : List Letter)
  | operator (c : Char)
  | newline
deriving DecidableEq, Repr

/-- Where the reader stands. The letters of the open word are held last first. -/
inductive Reading
  | between
  | comment
  | word (done : List Letter)
  | single (done : List Letter)
  | double (done : List Letter)
  /-- After a backslash between double quotes. -/
  | doubleBackslash (done : List Letter)
  /-- After a backslash outside quotes, with which a word may begin. -/
  | backslash (within : Option (List Letter))
deriving DecidableEq, Repr

/-- The characters that part words. -/
def isBlank (c : Char) : Bool :=
  c == ' ' || c == '\t'

/-- The characters of the control and redirection operators. -/
def isOperator (c : Char) : Bool :=
  ['&', '|', ';', '<', '>', '(', ')'].contains c

/-- The characters that, without a quote, stand for something else: parameters and commands, home
directories, patterns of file names and choices between braces, and past commands. -/
def isExpanding (c : Char) : Bool :=
  ['$', '\x60', '~', '*', '?', '[', ']', '\x7b', '\x7d', '!'].contains c

/-- The characters that a backslash protects between double quotes. -/
def isDoubleEscaped (c : Char) : Bool :=
  ['$', '\x60', '"', '\\'].contains c

/-- Where the reader stands after a character that opens a quote or belongs to a word. -/
def intoWord (done : List Letter) (c : Char) : Reading :=
  if c = '\'' then .single done
  else if c = '"' then .double done
  else if c = '\\' then .backslash (some done)
  else .word (⟨c, false⟩ :: done)

/-- One more character: where the reader stands then, and the tokens that are whole. -/
def readChar (state : Reading) (c : Char) : Reading × List Token :=
  match state with
  | .between =>
    if isBlank c then (.between, [])
    else if c = '\n' then (.between, [.newline])
    else if isOperator c then (.between, [.operator c])
    else if c = '#' then (.comment, [])
    else if c = '\\' then (.backslash none, [])
    else (intoWord [] c, [])
  | .comment => if c = '\n' then (.between, [.newline]) else (.comment, [])
  | .word done =>
    if isBlank c then (.between, [.word done.reverse])
    else if c = '\n' then (.between, [.word done.reverse, .newline])
    else if isOperator c then (.between, [.word done.reverse, .operator c])
    else (intoWord done c, [])
  | .single done => if c = '\'' then (.word done, []) else (.single (⟨c, true⟩ :: done), [])
  | .double done =>
    if c = '"' then (.word done, [])
    else if c = '\\' then (.doubleBackslash done, [])
    else (.double (⟨c, !(c == '$' || c == '\x60')⟩ :: done), [])
  | .doubleBackslash done =>
    if c = '\n' then (.double done, [])
    else if isDoubleEscaped c then (.double (⟨c, true⟩ :: done), [])
    else (.double (⟨c, true⟩ :: ⟨'\\', true⟩ :: done), [])
  | .backslash within =>
    if c = '\n' then (within.elim .between .word, [])
    else (.word (⟨c, true⟩ :: within.getD []), [])

/-- The tokens of the rest of a text, unless it ends inside quotes or after a backslash. -/
def readFrom (state : Reading) : List Char → Option (List Token)
  | [] =>
    match state with
    | .between | .comment => some []
    | .word done => some [.word done.reverse]
    | _ => none
  | c :: cs => ((readChar state c).2 ++ ·) <$> readFrom (readChar state c).1 cs

/-- Whether a shell takes a letter as it stands. -/
def Letter.isInert (l : Letter) : Bool :=
  l.isQuoted || !isExpanding l.char

/-- The text of a word without its quotes, when nothing in it is expanded. -/
def Token.literal? : Token → Option String
  | .word letters =>
    if letters.all Letter.isInert then some (String.ofList (letters.map Letter.char)) else none
  | _ => none

/-- The tokens of each command line, those without tokens left out; `done` are the tokens of the open
line, last first. -/
def linesFrom (done : List Token) : List Token → List (List Token)
  | [] => if done = [] then [] else [done.reverse]
  | .newline :: tokens =>
    if done = [] then linesFrom [] tokens else done.reverse :: linesFrom [] tokens
  | token :: tokens => linesFrom (token :: done) tokens

/-- The commands of a text, each with its words, when all of it is taken as it stands. -/
def commands? (s : String) : Option (List (List String)) :=
  (readFrom .between s.toList).bind fun tokens =>
    (linesFrom [] tokens).mapM fun line => line.mapM Token.literal?

/-- Whether a text is a name that a variable may have. -/
def isName (s : String) : Bool :=
  match s.toList with
  | [] => false
  | c :: cs => (c.isAlpha || c == '_') && cs.all fun c => c.isAlphanum || c == '_'

end Checkin.Shell

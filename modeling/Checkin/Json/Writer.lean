import Checkin.Text.Numeral

/-!
# Writing JSON

Objects are written without white space and strings with as few escapes as JSON allows: the quote, the
backslash and the characters below U+0020 are escaped, the five with a short escape by that one.
-/

namespace Checkin.Json

/-- A character as it stands in a string. -/
def escaped (c : Char) : List Char :=
  if c = '"' then ['\\', '"']
  else if c = '\\' then ['\\', '\\']
  else if c = '\n' then ['\\', 'n']
  else if c = '\r' then ['\\', 'r']
  else if c = '\t' then ['\\', 't']
  else if c = '\x08' then ['\\', 'b']
  else if c = '\x0c' then ['\\', 'f']
  else if c.toNat < 32 then '\\' :: 'u' :: Text.hexDigits 4 c.toNat
  else [c]

/-- A string, between its quotes. -/
def stringChars (s : String) : List Char :=
  '"' :: s.toList.flatMap escaped ++ ['"']

/-- A member of an object whose value is already written. -/
def memberChars (member : String × List Char) : List Char :=
  stringChars member.1 ++ ':' :: member.2

/-- An object of members whose values are already written, in the order given. -/
def objectChars (members : List (String × List Char)) : List Char :=
  '\x7b' :: List.intercalate [','] (members.map memberChars) ++ ['\x7d']

end Checkin.Json

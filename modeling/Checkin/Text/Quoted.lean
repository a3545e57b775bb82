import Checkin.Text.CharacterClass
import Checkin.Text.Numeral

/-!
# Quoted literals

Messages show texts and octet strings as quoted literals, in which nothing is invisible or ambiguous.
The quote is the apostrophe, or the double quote for a text that holds apostrophes and no double
quote. The quote and the backslash are escaped, as is every character that is not printable.
-/

namespace Checkin.Text

/-- The quote that a literal is written between. -/
def quoteFor (cs : List Char) : Char :=
  if cs.contains '\'' && !cs.contains '"' then '"' else '\''

/-- A character as it stands in a literal between the given quotes. -/
def quotedChar (quote c : Char) : List Char :=
  if c = quote ∨ c = '\\' then ['\\', c]
  else if c = '\t' then ['\\', 't']
  else if c = '\n' then ['\\', 'n']
  else if c = '\r' then ['\\', 'r']
  else if isPrintable c then [c]
  else if c.toNat < 0x100 then '\\' :: 'x' :: hexDigits 2 c.toNat
  else if c.toNat < 0x10000 then '\\' :: 'u' :: hexDigits 4 c.toNat
  else '\\' :: 'U' :: hexDigits 8 c.toNat

/-- A text as a quoted literal. -/
def quoted (s : String) : String :=
  let cs := s.toList
  let quote := quoteFor cs
  String.ofList (quote :: cs.flatMap (quotedChar quote) ++ [quote])

/-- An octet as it stands in a literal: only ASCII shows as itself. -/
def quotedOctet (quote : Char) (b : UInt8) : List Char :=
  if b < 0x80 then quotedChar quote (Char.ofNat b.toNat)
  else '\\' :: 'x' :: hexDigits 2 b.toNat

/-- An octet string as a quoted literal, marked by a leading letter. -/
def quotedOctets (bs : List UInt8) : String :=
  let quote := quoteFor (bs.map fun b => Char.ofNat b.toNat)
  String.ofList ('b' :: quote :: bs.flatMap (quotedOctet quote) ++ [quote])

end Checkin.Text

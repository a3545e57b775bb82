import Checkin.Binary64.Decimal
import Checkin.Text.Quoted

/-!
# Supplied values

Callers may hand the library a value of any kind where a text or a whole number belongs; validation
tells the kinds apart and converts none into another. `Value` is what they hand over.

A value that ends up inside a text, such as a platform property that is not a text, appears as
`text?` writes it: a text as itself, anything else as its literal. Inside lists and dictionaries texts
are literals too, so that the pieces can be told apart. A whole number with more digits than a numeral
may have has no text, nor has what contains it.
-/

namespace Checkin

/-- A value as a caller supplies it. -/
inductive Value
  | null
  | bool (b : Bool)
  | int (n : Int)
  | float (x : Binary64)
  | text (s : String)
  | octets (bs : List UInt8)
  | list (items : List Value)
  | dict (members : List (String × Value))
deriving Repr, Inhabited

/-- A value that stands for "nothing supplied" where something has to be: no value, false, zero of
either kind, and whatever is empty. -/
def Value.isFalsy : Value → Bool
  | .null => true
  | .bool b => !b
  | .int n => n == 0
  | .float x => x.isZero
  | .text s => s.isEmpty
  | .octets bs => bs.isEmpty
  | .list items => items.isEmpty
  | .dict members => members.isEmpty

/-! ## Texts of values -/

namespace Value

open Checkin.Text

mutual

/-- The literal of a value. -/
def literal? : Value → Option String
  | .null => some "None"
  | .bool true => some "True"
  | .bool false => some "False"
  | .int n => numeral? n
  | .float x => some x.text
  | .text s => some (quoted s)
  | .octets bs => some (quotedOctets bs)
  | .list items => (literals? items).map fun ls => "[" ++ ", ".intercalate ls ++ "]"
  | .dict members => (memberLiterals? members).map fun ls => "\x7b" ++ ", ".intercalate ls ++ "\x7d"

/-- The literals of the items of a list. -/
def literals? : List Value → Option (List String)
  | [] => some []
  | item :: items => do
    let first ← item.literal?
    let rest ← literals? items
    return first :: rest

/-- The literals of the members of a dictionary. -/
def memberLiterals? : List (String × Value) → Option (List String)
  | [] => some []
  | (key, value) :: members => do
    let first ← value.literal?
    let rest ← memberLiterals? members
    return (quoted key ++ ": " ++ first) :: rest

end

/-- A value as it appears inside a text. -/
def text? : Value → Option String
  | .text s => some s
  | value => value.literal?

/-- The name of a value's kind. -/
def kind : Value → String
  | .null => "NoneType"
  | .bool _ => "bool"
  | .int _ => "int"
  | .float _ => "float"
  | .text _ => "str"
  | .octets _ => "bytes"
  | .list _ => "list"
  | .dict _ => "dict"

end Value

end Checkin

/-!
# Digits and numerals

Hexadecimal is written in lower case, as escapes and installation ids have it, and digits of either case
are read.

A decimal digit is a character of Unicode's general category `Nd`. Those come in runs of ten
consecutive characters, zero to nine, one run for each script's digits, so the table holds the zeros.

Whole numbers are written in plain decimal: a minus sign for negative ones, no leading zeros. They are
read more freely: either sign, digits of any script, leading zeros, and single underscores between two
digits. Neither way may a numeral have more than `maxDigits` digits.
-/

namespace Checkin.Text

/-! ## Hexadecimal digits -/

/-- The lower-case digit of a value below sixteen. -/
def hexDigit (n : Nat) : Char :=
  if n < 10 then Char.ofNat (48 + n) else Char.ofNat (87 + n)

/-- The `width` lowest hexadecimal digits of a number, the highest first. -/
def hexDigits : Nat → Nat → List Char
  | 0, _ => []
  | width + 1, n => hexDigits width (n / 16) ++ [hexDigit (n % 16)]

/-- The value of a hexadecimal digit of either case. -/
def hexValue? (c : Char) : Option Nat :=
  let n := c.toNat
  if 48 ≤ n ∧ n ≤ 57 then some (n - 48)
  else if 97 ≤ n ∧ n ≤ 102 then some (n - 87)
  else if 65 ≤ n ∧ n ≤ 70 then some (n - 55)
  else none

/-- A digit that was written reads back. -/
theorem hexValue?_hexDigit : ∀ n < 16, hexValue? (hexDigit n) = some n := by decide

/-! ## Decimal digits -/

/-- The digit zero of each run of ten decimal digits. -/
def digitZeros : List Nat :=
  [0x0030, 0x0660, 0x06F0, 0x07C0, 0x0966, 0x09E6, 0x0A66, 0x0AE6, 0x0B66, 0x0BE6, 0x0C66,
   0x0CE6, 0x0D66, 0x0DE6, 0x0E50, 0x0ED0, 0x0F20, 0x1040, 0x1090, 0x17E0, 0x1810, 0x1946,
   0x19D0, 0x1A80, 0x1A90, 0x1B50, 0x1BB0, 0x1C40, 0x1C50, 0xA620, 0xA8D0, 0xA900, 0xA9D0,
   0xA9F0, 0xAA50, 0xABF0, 0xFF10, 0x104A0, 0x10D30, 0x11066, 0x110F0, 0x11136, 0x111D0,
   0x112F0, 0x11450, 0x114D0, 0x11650, 0x116C0, 0x11730, 0x118E0, 0x11950, 0x11C50, 0x11D50,
   0x11DA0, 0x16A60, 0x16AC0, 0x16B50, 0x1D7CE, 0x1D7D8, 0x1D7E2, 0x1D7EC, 0x1D7F6, 0x1E140,
   0x1E2F0, 0x1E950, 0x1FBF0]

/-- The value of a decimal digit of any script. -/
def digitValue? (c : Char) : Option Nat :=
  (digitZeros.find? fun base => base ≤ c.toNat && c.toNat < base + 10).map (c.toNat - ·)

/-- Whether a character is a decimal digit of some script. -/
def isDecimalDigit (c : Char) : Bool :=
  (digitValue? c).isSome

/-! ## Numerals -/

/-- The most digits that a numeral may have. -/
def maxDigits : Nat := 4300

/-- The decimal digits of a number, in front of `rest`. -/
def digitsOnto (n : Nat) (rest : List Char) : List Char :=
  let front := Char.ofNat (48 + n % 10) :: rest
  if n < 10 then front else digitsOnto (n / 10) front
termination_by n

/-- The decimal digits of a number, the highest first. -/
def digits (n : Nat) : List Char :=
  digitsOnto n []

/-- A whole number in plain decimal. -/
def numeralChars : Int → List Char
  | .ofNat n => digits n
  | .negSucc n => '-' :: digits (n + 1)

/-- A whole number in plain decimal. -/
def numeral (n : Int) : String :=
  String.ofList (numeralChars n)

/-- A whole number in plain decimal, when it has no more digits than a numeral may have. -/
def numeral? (n : Int) : Option String :=
  if (digits n.natAbs).length ≤ maxDigits then some (numeral n) else none

/-- Reads on after a digit: more digits, each with at most one underscore before it. The result is
the value of all digits and their count, `value` and `count` being those of the digits before. -/
def readDigitsAfter (value count : Nat) : List Char → Option (Nat × Nat)
  | [] => some (value, count)
  | '_' :: c :: cs =>
    match digitValue? c with
    | some d => readDigitsAfter (value * 10 + d) (count + 1) cs
    | none => none
  | c :: cs =>
    match digitValue? c with
    | some d => readDigitsAfter (value * 10 + d) (count + 1) cs
    | none => none

/-- The value and the count of one or more digits, underscores standing only between two of them. -/
def readDigits? : List Char → Option (Nat × Nat)
  | [] => none
  | c :: cs =>
    match digitValue? c with
    | some d => readDigitsAfter d 1 cs
    | none => none

/-- The value of an unsigned numeral. -/
def readUnsigned? (cs : List Char) : Option Nat :=
  match readDigits? cs with
  | some (value, count) => if count ≤ maxDigits then some value else none
  | none => none

/-- The value of a numeral with an optional sign. -/
def readNumeral? : List Char → Option Int
  | '+' :: cs => (readUnsigned? cs).map Int.ofNat
  | '-' :: cs => (readUnsigned? cs).map fun n => -(n : Int)
  | cs => (readUnsigned? cs).map Int.ofNat

end Checkin.Text

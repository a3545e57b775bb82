import Checkin.Binary64
import Checkin.Text.CharacterClass
import Checkin.Text.Numeral

/-!
# Decimal texts of double-precision numbers

A number is read from decimal text by rounding the exact decimal value. It is written with the fewest
digits that read back as the same number and, of those, the ones nearest to it: positionally when the
decimal point stands near the digits, with a power of ten otherwise.
-/

namespace Checkin.Binary64

open Checkin.Text

/-! ## Reading -/

/-- The number nearest to `digits * 10 ^ exponent`, with a sign. Far outside the range of the finite
numbers, the power of ten is not formed. -/
def ofDecimal (negative : Bool) (digits : Nat) (exponent : Int) : Binary64 :=
  if digits = 0 then zero negative
  else
    let size : Int := (Text.digits digits).length + exponent
    if 400 < size then .infinite negative
    else if size < -400 then zero negative
    else if 0 ≤ exponent then ofRatio negative (digits * Nat.pow 10 exponent.toNat) 1
    else ofRatio negative digits (Nat.pow 10 (-exponent).toNat)

/-- The value and the count of the leading digits, and what follows them; `digit?` says what a digit
is, and `value` and `count` are those of the digits before. -/
def leadingDigits (digit? : Char → Option Nat) (value count : Nat) :
    List Char → Nat × Nat × List Char
  | [] => (value, count, [])
  | c :: cs =>
    match digit? c with
    | some d => leadingDigits digit? (value * 10 + d) (count + 1) cs
    | none => (value, count, c :: cs)

/-- The power of ten that an exponent mark and digits after a mantissa name; nothing names zero. -/
def readExponent? (digit? : Char → Option Nat) : List Char → Option Int
  | [] => some 0
  | e :: cs =>
    if e = 'e' ∨ e = 'E' then
      let (negative, cs) :=
        match cs with
        | '-' :: cs => (true, cs)
        | '+' :: cs => (false, cs)
        | cs => (false, cs)
      match leadingDigits digit? 0 0 cs with
      | (value, _ + 1, []) => some (if negative then -value else value)
      | _ => none
    else none

/-- An unsigned decimal: digits of any script, a point anywhere among them, and a power of ten. -/
def readUnsigned? (negative : Bool) (cs : List Char) : Option Binary64 :=
  let (whole, wholeCount, rest) := leadingDigits digitValue? 0 0 cs
  let (value, places, count, rest) :=
    match rest with
    | '.' :: rest =>
      let (value, count, rest) := leadingDigits digitValue? whole 0 rest
      (value, count, wholeCount + count, rest)
    | rest => (whole, 0, wholeCount, rest)
  if count = 0 then none
  else (readExponent? digitValue? rest).map fun exponent => ofDecimal negative value (exponent - places)

/-- Takes away the underscores, each of which has to stand between two digits. -/
def withoutUnderscores? (afterDigit : Bool) : List Char → Option (List Char)
  | [] => some []
  | '_' :: c :: cs =>
    if afterDigit && isDecimalDigit c then (c :: ·) <$> withoutUnderscores? true cs else none
  | c :: cs => if c = '_' then none else (c :: ·) <$> withoutUnderscores? (isDecimalDigit c) cs

/-- The number that a decimal text, or the name of an infinity or of no number, stands for. -/
def read? (s : String) : Option Binary64 :=
  (withoutUnderscores? false (strip s.toList)).bind fun cs =>
    let (negative, cs) :=
      match cs with
      | '-' :: cs => (true, cs)
      | '+' :: cs => (false, cs)
      | cs => (false, cs)
    let name := String.ofList (cs.map Char.toLower)
    if name = "inf" ∨ name = "infinity" then some (.infinite negative)
    else if name = "nan" then some .nan
    else readUnsigned? negative cs

/-! ## Writing -/

/-- The exponent `p` for which `10 ^ p ≤ num / den < 10 ^ (p + 1)`, of a ratio above zero. -/
def decimalExponent (num den : Nat) : Int :=
  if den ≤ num then (digits (num / den)).length - 1
  else
    let c := (digits (den / num)).length
    if den ≤ num * Nat.pow 10 (c - 1) then 1 - c else -c

/-- The decimal with `count` digits that is nearest to `x` and reads back as it, as digits and a
power of ten. `x` is `num / den` without its sign and has the decimal exponent `p`. -/
def nearestWith? (x : Binary64) (negative : Bool) (num den : Nat) (p : Int) (count : Nat) :
    Option (Nat × Int) :=
  let power := p - count + 1
  let (n, d) :=
    if 0 ≤ power then (num, den * Nat.pow 10 power.toNat) else (num * Nat.pow 10 (-power).toNat, den)
  let low := n / d
  let near := roundToEven n d
  let far := if near = low then low + 1 else low
  if ofDecimal negative near power = x then some (near, power)
  else if ofDecimal negative far power = x then some (far, power)
  else none

/-- The digits and the power of ten of the shortest decimal that reads back as `x`. -/
def shortest (x : Binary64) (negative : Bool) (m : Nat) (e : Int) : Nat × Int :=
  let (num, den) := ratio m e
  let p := decimalExponent num den
  ((List.range 17).findSome? fun i => nearestWith? x negative num den p (i + 1)).getD (0, 0)

/-- Takes the zeros at the end of the digits into the power of ten. -/
def withoutEndZeros : Nat → Nat → Int → Nat × Int
  | 0, n, t => (n, t)
  | fuel + 1, n, t => if n % 10 = 0 then withoutEndZeros fuel (n / 10) (t + 1) else (n, t)

/-- Decimal points from this many places left of the first digit are written with a power of ten. -/
def pointMin : Int := -4

/-- Decimal points further right of the first digit than this are written with a power of ten. -/
def pointMax : Int := 16

/-- Digits, with the decimal point `point` places right of the first one's left side. -/
def layOut (ds : List Char) (point : Int) : List Char :=
  if pointMin < point ∧ point ≤ pointMax then
    if point ≤ 0 then '0' :: '.' :: List.replicate (-point).toNat '0' ++ ds
    else if ds.length ≤ point.toNat then ds ++ List.replicate (point.toNat - ds.length) '0' ++ ['.', '0']
    else ds.take point.toNat ++ '.' :: ds.drop point.toNat
  else
    let power := point - 1
    let mantissa :=
      match ds with
      | [] => []
      | [d] => [d]
      | d :: ds => d :: '.' :: ds
    let places := digits power.natAbs
    let padded := if places.length < 2 then '0' :: places else places
    mantissa ++ 'e' :: (if power < 0 then '-' else '+') :: padded

/-- The number as text. -/
def text : Binary64 → String
  | .finite negative m e =>
    let sign := if negative then ['-'] else []
    if m = 0 then String.ofList (sign ++ ['0', '.', '0'])
    else
      let (n, t) := shortest (.finite negative m e) negative m e
      let (n, t) := withoutEndZeros 17 n t
      let ds := digits n
      String.ofList (sign ++ layOut ds (ds.length + t))
  | .infinite negative => if negative then "-inf" else "inf"
  | .nan => "nan"

end Checkin.Binary64

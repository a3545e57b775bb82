/-!
# Double-precision numbers

The clock tells the time as a double-precision binary number, and a supplied value may be one. A
finite one is held exactly, as a sign, a significand and a binary exponent; every operation rounds the
exact result to the nearest such number, to the even significand when two are equally near.
-/

namespace Checkin

/-- A double-precision binary number; `finite negative m e` is `m * 2 ^ e` with that sign. -/
inductive Binary64
  | finite (negative : Bool) (significand : Nat) (exponent : Int)
  | infinite (negative : Bool)
  | nan
deriving DecidableEq, Repr, Inhabited

namespace Binary64

/-- The least exponent, that of zero and of the numbers nearest to it. -/
def minExponent : Int := -1074

/-- The greatest exponent of a finite number. -/
def maxExponent : Int := 971

/-- Zero, with a sign. -/
def zero (negative : Bool) : Binary64 :=
  .finite negative 0 minExponent

/-- The whole number nearest to `num / den`, the even one when two are equally near. -/
def roundToEven (num den : Nat) : Nat :=
  let q := num / den
  let r := num % den
  if 2 * r < den then q
  else if den < 2 * r then q + 1
  else if q % 2 = 0 then q else q + 1

/-- Numerator and denominator of `num / den` divided by `2 ^ e`. -/
def shifted (num den : Nat) (e : Int) : Nat × Nat :=
  if 0 ≤ e then (num, den * Nat.pow 2 e.toNat) else (num * Nat.pow 2 (-e).toNat, den)

/-- The number nearest to `num / den`, with a sign. -/
def ofRatio (negative : Bool) (num den : Nat) : Binary64 :=
  if num = 0 then zero negative
  else
    let guess := max minExponent ((Nat.log2 num : Int) - Nat.log2 den - 53)
    let (n, d) := shifted num den guess
    let e := if n / d < Nat.pow 2 53 then guess else guess + 1
    let (n, d) := shifted num den e
    let m := roundToEven n d
    let (m, e) := if m = Nat.pow 2 53 then (Nat.pow 2 52, e + 1) else (m, e)
    if maxExponent < e then .infinite negative else .finite negative m e

/-- Numerator and denominator of `m * 2 ^ e`. -/
def ratio (m : Nat) (e : Int) : Nat × Nat :=
  shifted m 1 (-e)

/-- The number multiplied by a whole number. -/
def scale (k : Nat) : Binary64 → Binary64
  | .finite negative m e =>
    let (num, den) := ratio m e
    ofRatio negative (num * k) den
  | .infinite negative => if k = 0 then .nan else .infinite negative
  | .nan => .nan

/-- The whole part of a finite number, which is cut off toward zero. -/
def trunc? : Binary64 → Option Int
  | .finite negative m e =>
    let (num, den) := ratio m e
    let n : Int := (num / den : Nat)
    some (if negative then -n else n)
  | _ => none

/-- The greatest whole number that is not above a finite number. -/
def floor? : Binary64 → Option Int
  | .finite negative m e =>
    let (num, den) := ratio m e
    let n : Int := num
    some ((if negative then -n else n) / (den : Int))
  | _ => none

/-- What is left of a number once its whole part is cut off; it keeps the sign. -/
def fraction : Binary64 → Binary64
  | .finite negative m e =>
    let (num, den) := ratio m e
    ofRatio negative (num % den) den
  | _ => .nan

/-- Whether the number is zero, of either sign. -/
def isZero : Binary64 → Bool
  | .finite _ m _ => m == 0
  | _ => false

end Binary64

end Checkin

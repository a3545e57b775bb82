import Checkin.Failure
import Checkin.Proofs.Text.Digits

/-!
# Size of double-precision numbers

Rounding keeps the significand within 53 bits, so the whole part of a rounded number has no more digits
than a numeral may have.
-/

namespace Checkin.Binary64

theorem roundToEven_le (num den : Nat) : roundToEven num den ≤ num / den + 1 := by
  unfold roundToEven
  simp only
  split
  · omega
  · split
    · omega
    · split <;> omega

/-- With an exponent this great, a quotient of at most 53 bits is left. -/
theorem shifted_quotient_lt {num den : Nat} {e : Int} (positive : 0 < den)
    (large : (Nat.log2 num : Int) + 1 ≤ Nat.log2 den + e + 53) :
    (shifted num den e).1 / (shifted num den e).2 < 2 ^ 53 := by
  have above : num < 2 ^ (Nat.log2 num + 1) := Nat.lt_log2_self
  have below : 2 ^ Nat.log2 den ≤ den := Nat.log2_self_le (by omega)
  unfold shifted
  split
  · next upward =>
    have exponents : Nat.log2 num + 1 ≤ Nat.log2 den + e.toNat + 53 := by omega
    refine Nat.div_lt_of_lt_mul ?_
    calc num < 2 ^ (Nat.log2 num + 1) := above
      _ ≤ 2 ^ (Nat.log2 den + e.toNat + 53) := Nat.pow_le_pow_right (by decide) exponents
      _ = 2 ^ Nat.log2 den * 2 ^ e.toNat * 2 ^ 53 := by rw [Nat.pow_add, Nat.pow_add]
      _ ≤ den * Nat.pow 2 e.toNat * 2 ^ 53 :=
        Nat.mul_le_mul_right _ (Nat.mul_le_mul_right _ below)
  · next downward =>
    have exponents : Nat.log2 num + 1 + (-e).toNat ≤ Nat.log2 den + 53 := by omega
    refine Nat.div_lt_of_lt_mul ?_
    calc num * Nat.pow 2 (-e).toNat < 2 ^ (Nat.log2 num + 1) * 2 ^ (-e).toNat :=
          Nat.mul_lt_mul_of_pos_right above (Nat.pow_pos (by decide))
      _ = 2 ^ (Nat.log2 num + 1 + (-e).toNat) := by rw [← Nat.pow_add]
      _ ≤ 2 ^ (Nat.log2 den + 53) := Nat.pow_le_pow_right (by decide) exponents
      _ = 2 ^ Nat.log2 den * 2 ^ 53 := by rw [Nat.pow_add]
      _ ≤ den * 2 ^ 53 := Nat.mul_le_mul_right _ below

/-- A finite number that comes of rounding has a significand of 53 bits and an exponent in range. -/
theorem ofRatio_eq_finite {negative sign : Bool} {num den m : Nat} {e : Int} (positive : 0 < den)
    (rounded : ofRatio negative num den = .finite sign m e) : m ≤ 2 ^ 53 ∧ e ≤ maxExponent := by
  unfold ofRatio at rounded
  split at rounded
  · cases rounded
    decide
  · simp only at rounded
    generalize guessed : max minExponent ((Nat.log2 num : Int) - Nat.log2 den - 53) = guess at rounded
    generalize chosen : (if (shifted num den guess).1 / (shifted num den guess).2 < Nat.pow 2 53
      then guess else guess + 1) = e' at rounded
    have quotient : (shifted num den e').1 / (shifted num den e').2 < 2 ^ 53 := by
      split at chosen
      · next small => rwa [← chosen]
      · refine shifted_quotient_lt positive ?_
        omega
    have significand := roundToEven_le (shifted num den e').1 (shifted num den e').2
    generalize roundToEven (shifted num den e').1 (shifted num den e').2 = r at rounded significand
    split at rounded
    · split at rounded
      · cases rounded
      · cases rounded
        refine ⟨?_, by omega⟩
        show 2 ^ 52 ≤ 2 ^ 53
        decide
    · split at rounded
      · cases rounded
      · cases rounded
        exact ⟨by omega, by omega⟩

theorem ratio_den_pos (m : Nat) (e : Int) : 0 < (ratio m e).2 := by
  unfold ratio shifted
  split
  · exact Nat.mul_pos (by decide) (Nat.pow_pos (by decide))
  · exact Nat.one_pos

theorem scale_eq_finite {x : Binary64} {k m : Nat} {sign : Bool} {e : Int}
    (scaled : x.scale k = .finite sign m e) : m ≤ 2 ^ 53 ∧ e ≤ maxExponent := by
  cases x with
  | finite negative m' e' => exact ofRatio_eq_finite (ratio_den_pos m' e') scaled
  | infinite negative =>
    rw [scale] at scaled
    split at scaled <;> cases scaled
  | nan => cases scaled

theorem ratio_quotient_lt {m : Nat} {e : Int} (significand : m ≤ 2 ^ 53) (exponent : e ≤ maxExponent) :
    (ratio m e).1 / (ratio m e).2 < 10 ^ Text.maxDigits := by
  obtain ⟨k, few, size⟩ : ∃ k, k < Text.maxDigits ∧ (ratio m e).1 / (ratio m e).2 ≤ 2 ^ k := by
    unfold ratio shifted
    split
    · exact ⟨53, by decide, Nat.le_trans (Nat.div_le_self _ _) significand⟩
    · next large =>
      refine ⟨53 + (- -e).toNat, ?_, ?_⟩
      · unfold maxExponent at exponent
        unfold Text.maxDigits
        omega
      · rw [Nat.div_one, Nat.pow_add]
        exact Nat.mul_le_mul_right _ significand
  calc (ratio m e).1 / (ratio m e).2 ≤ 2 ^ k := size
    _ ≤ 10 ^ k := Nat.pow_le_pow_left (by decide) k
    _ < 10 ^ Text.maxDigits := Nat.pow_lt_pow_right (by decide) few

/-- The whole part of a multiple has a numeral. -/
theorem numeral?_of_scale {x : Binary64} {k : Nat} {n : Int} (whole : (x.scale k).wholePart = .ok n) :
    Text.numeral? n = some (Text.numeral n) := by
  have bound : n.natAbs < 10 ^ Text.maxDigits := by
    unfold wholePart at whole
    cases scaled : x.scale k with
    | nan | infinite => rw [scaled] at whole; cases whole
    | finite sign m e =>
      obtain ⟨significand, exponent⟩ := scale_eq_finite scaled
      rw [scaled] at whole
      have size := ratio_quotient_lt significand exponent
      simp only [trunc?, Except.ok.injEq] at whole
      rw [← whole]
      cases sign
      · rw [if_neg (by decide), Int.natAbs_natCast]
        exact size
      · rw [if_pos rfl, Int.natAbs_neg, Int.natAbs_natCast]
        exact size
  rw [Text.numeral?, if_pos (Text.length_digits_le bound (by decide))]

/-- A number whose multiple has a whole part has one itself. -/
theorem wholePart_of_scale {x : Binary64} {k : Nat} {n : Int} (positive : 0 < k)
    (whole : (x.scale k).wholePart = .ok n) : ∃ m, x.wholePart = .ok m := by
  cases x with
  | finite negative m e => exact ⟨_, rfl⟩
  | infinite negative =>
    rw [scale, if_neg (by omega)] at whole
    cases whole
  | nan => cases whole

end Checkin.Binary64

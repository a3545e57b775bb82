import Mathlib
import Checkin.Binary64.Decimal
import Checkin.Json.Token

/-!
# Digits written and read

A number is written digit by digit in `digits`, and `leadingDigits` reads such digits back together with
their count. Both facts are stated in front of any rest, because a numeral stands inside a longer text.
-/

namespace Checkin.Text

/-- Induction along the digits of a number. -/
theorem digits_induction {motive : Nat → Prop} (digit : ∀ n < 10, motive n)
    (more : ∀ n, 10 ≤ n → motive (n / 10) → motive n) (n : Nat) : motive n := by
  induction n using Nat.strongRecOn with
  | ind n ih =>
    by_cases small : n < 10
    · exact digit n small
    · exact more n (by omega) (ih (n / 10) (by omega))

theorem digitsOnto_eq (n : Nat) (rest : List Char) :
    digitsOnto n rest =
      if n < 10 then Char.ofNat (48 + n % 10) :: rest
      else digitsOnto (n / 10) (Char.ofNat (48 + n % 10) :: rest) := by
  rw [digitsOnto]

/-- What follows a numeral has no part in it. -/
theorem digitsOnto_eq_append (n : Nat) (rest : List Char) :
    digitsOnto n rest = digits n ++ rest := by
  induction n using digits_induction generalizing rest with
  | digit n small => simp [digits, digitsOnto_eq n, small]
  | more n large ih =>
    have several : ¬n < 10 := Nat.not_lt.2 large
    rw [digits, digitsOnto_eq n rest, digitsOnto_eq n [], if_neg several, if_neg several, ih, ih [_]]
    simp

theorem digits_of_lt {n : Nat} (small : n < 10) : digits n = [Char.ofNat (48 + n)] := by
  rw [digits, digitsOnto_eq, if_pos small, Nat.mod_eq_of_lt small]

/-- A number with several digits is its tenth followed by its last digit. -/
theorem digits_of_le {n : Nat} (large : 10 ≤ n) :
    digits n = digits (n / 10) ++ [Char.ofNat (48 + n % 10)] := by
  rw [digits, digitsOnto_eq, if_neg (by omega), digitsOnto_eq_append]

theorem length_digits_pos (n : Nat) : 0 < (digits n).length := by
  by_cases small : n < 10
  · simp [digits_of_lt small]
  · simp [digits_of_le (by omega : 10 ≤ n)]

/-- A number below a power of ten has at most as many digits as the power has zeros. -/
theorem length_digits_le {n k : Nat} (bound : n < 10 ^ k) (hk : 0 < k) :
    (digits n).length ≤ k := by
  induction k generalizing n with
  | zero => omega
  | succ k ih =>
    by_cases small : n < 10
    · simp [digits_of_lt small]
    · have hk' : 0 < k := by
        rcases Nat.eq_zero_or_pos k with rfl | hpos
        · simp at bound
          omega
        · exact hpos
      have tenth : n / 10 < 10 ^ k := by
        rw [Nat.pow_succ] at bound
        omega
      have := ih tenth hk'
      rw [digits_of_le (by omega), List.length_append, List.length_singleton]
      omega

/-- A number from a power of ten on has more digits than the power has zeros. -/
theorem lt_length_digits {n k : Nat} (bound : 10 ^ k ≤ n) : k < (digits n).length := by
  induction k generalizing n with
  | zero => exact length_digits_pos n
  | succ k ih =>
    rw [Nat.pow_succ] at bound
    have pos : 0 < 10 ^ k := Nat.pow_pos (by decide)
    have := ih (n := n / 10) (by omega)
    rw [digits_of_le (by omega), List.length_append, List.length_singleton]
    omega

theorem isDigit_digit : ∀ d < 10, (Char.ofNat (48 + d)).isDigit = true := by decide

theorem exists_of_isDigit {c : Char} (digit : c.isDigit = true) : ∃ d < 10, c = Char.ofNat (48 + d) := by
  simp only [Char.isDigit, Bool.and_eq_true, decide_eq_true_eq] at digit
  have low : 48 ≤ c.toNat := digit.1
  have high : c.toNat ≤ 57 := digit.2
  refine ⟨c.toNat - 48, by omega, ?_⟩
  rw [Nat.add_sub_cancel' low, Char.ofNat_toNat]

theorem isDigit_of_mem_digits {n : Nat} {c : Char} (member : c ∈ digits n) :
    c.isDigit = true := by
  induction n using digits_induction with
  | digit n small =>
    rw [digits_of_lt small, List.mem_singleton] at member
    exact member ▸ isDigit_digit n small
  | more n large ih =>
    rw [digits_of_le large, List.mem_append, List.mem_singleton] at member
    rcases member with front | rfl
    · exact ih front
    · exact isDigit_digit _ (Nat.mod_lt n (by omega))

/-- A numeral is made of digits and perhaps a sign. -/
theorem mem_numeralChars {i : Int} {c : Char} (member : c ∈ numeralChars i) :
    c = '-' ∨ c.isDigit = true := by
  cases i with
  | ofNat n => exact Or.inr (isDigit_of_mem_digits member)
  | negSucc n =>
    rcases List.mem_cons.1 member with sign | digit
    · exact Or.inl sign
    · exact Or.inr (isDigit_of_mem_digits digit)

/-- A numeral begins with its sign or with a digit. -/
theorem exists_numeralChars_eq_cons (i : Int) :
    ∃ c cs, numeralChars i = c :: cs ∧ (c = '-' ∨ c.isDigit = true) := by
  have some' : numeralChars i ≠ [] := by
    cases i with
    | ofNat n => exact List.ne_nil_of_length_pos (length_digits_pos n)
    | negSucc n => exact List.cons_ne_nil _ _
  obtain ⟨c, cs, chars⟩ := List.exists_cons_of_ne_nil some'
  refine ⟨c, cs, chars, mem_numeralChars (i := i) ?_⟩
  rw [chars]
  exact List.mem_cons_self

theorem le_toNat_of_mem_numeralChars {i : Int} {c : Char} (member : c ∈ numeralChars i) :
    32 ≤ c.toNat := by
  rcases mem_numeralChars member with rfl | digit
  · decide
  · obtain ⟨d, small, rfl⟩ := exists_of_isDigit digit
    exact (by decide : ∀ d < 10, 32 ≤ (Char.ofNat (48 + d)).toNat) d small

/-- No numeral but that of zero starts with a zero. -/
theorem head?_digits_ne_zero {n : Nat} (pos : 0 < n) : (digits n).head? ≠ some '0' := by
  induction n using digits_induction with
  | digit n small =>
    have first : ∀ d < 10, 0 < d → Char.ofNat (48 + d) ≠ '0' := by decide
    simpa [digits_of_lt small] using first n small pos
  | more n large ih =>
    have front := ih (by omega)
    rw [digits_of_le large, List.head?_append]
    obtain ⟨c, cs, equal⟩ := List.exists_cons_of_length_pos (length_digits_pos (n / 10))
    rw [equal] at front ⊢
    simpa using front

/-- Digits are read in front of anything: their number is appended to the value before them. The reader
may be any that knows the ten ASCII digits. -/
theorem leadingDigits_digits_append {digit? : Char → Option Nat}
    (known : ∀ d < 10, digit? (Char.ofNat (48 + d)) = some d) (n value count : Nat)
    (rest : List Char) :
    Binary64.leadingDigits digit? value count (digits n ++ rest) =
      Binary64.leadingDigits digit? (value * 10 ^ (digits n).length + n)
        (count + (digits n).length) rest := by
  induction n using digits_induction generalizing rest with
  | digit n small => simp [digits_of_lt small, Binary64.leadingDigits, known n small]
  | more n large ih =>
    have last : n % 10 < 10 := Nat.mod_lt n (by omega)
    rw [digits_of_le large, List.append_assoc, ih]
    simp only [List.singleton_append, Binary64.leadingDigits, known _ last, List.length_append,
      List.length_singleton]
    congr 1
    rw [Nat.pow_succ, ← Nat.mul_assoc]
    omega

end Checkin.Text

namespace Checkin.Json

open Checkin.Text

theorem digit?_digit : ∀ d < 10, digit? (Char.ofNat (48 + d)) = some d := by decide

theorem leadingDigits_digits (n : Nat) :
    Binary64.leadingDigits digit? 0 0 (digits n) = (n, (digits n).length, []) := by
  simpa [Binary64.leadingDigits] using leadingDigits_digits_append digit?_digit n 0 0 []

/-- The digits of a number pass for the whole part of one: there are some, and a zero leads only alone. -/
theorem not_malformed_digits (n : Nat) :
    ¬ ((digits n).length = 0 ∨ ((digits n).length ≠ 1 ∧ (digits n).head? = some '0')) := by
  rintro (none | ⟨several, zero⟩)
  · exact absurd none (Nat.pos_iff_ne_zero.1 (length_digits_pos n))
  · rcases Nat.eq_zero_or_pos n with rfl | pos
    · exact several (by simp [digits_of_lt])
    · exact head?_digits_ne_zero pos zero

/-- Digits after a minus sign are read as the negative of their number, which may be zero. -/
theorem number?_minus_digits {n : Nat} (short : (digits n).length ≤ maxWholeDigits) :
    number? ('-' :: digits n) = some (.int (-n)) := by
  simp only [number?, leadingDigits_digits]
  rw [if_neg (not_malformed_digits n), if_neg (Nat.not_lt.2 short)]
  rfl

/-- A whole number reads back from its numeral, unless that is too long. -/
theorem number?_numeralChars {i : Int} (short : (digits i.natAbs).length ≤ maxWholeDigits) :
    number? (numeralChars i) = some (.int i) := by
  cases i with
  | negSucc n => exact number?_minus_digits short
  | ofNat n =>
    have short' : ¬ maxWholeDigits < (digits n).length := Nat.not_lt.2 short
    obtain ⟨c, cs, equal⟩ := List.exists_cons_of_length_pos (length_digits_pos n)
    rw [numeralChars, equal]
    simp only [number?]
    -- No sign stands in front, so the match on it leaves the digits as they are.
    split
    next cs' sign =>
      have member : '-' ∈ digits n := by simp [equal, sign]
      exact absurd (isDigit_of_mem_digits member) (by decide)
    next =>
      dsimp only
      rw [← equal, leadingDigits_digits, if_neg (not_malformed_digits n), if_neg short']
      rfl

end Checkin.Json

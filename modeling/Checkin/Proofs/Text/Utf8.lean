import Mathlib.Tactic.SplitIfs
import Checkin.Text.Utf8

/-!
# Text in UTF-8 written and read

A character is written in one to four octets: a lead, which tells how many octets follow it, and the others,
six bits each. The octet after the lead is the only one whose range depends on the lead, and the character
that was written always has one in that range. So each text that was written is read back.
-/

namespace Checkin.Text

/-! ## One octet -/

section Octets

variable {b : UInt8} {bs : List UInt8} {p : Partial} {position more : Nat}

theorem decodeFrom_single (low : b < 0x80) :
    decodeFrom position none (b :: bs) =
      (Char.ofNat b.toNat :: ·) <$> decodeFrom (position + 1) none bs := by
  rw [decodeFrom, if_pos low]

theorem decodeFrom_lead (high : ¬b < 0x80) (lead : Partial.ofLead? b position = some p) :
    decodeFrom position none (b :: bs) = decodeFrom (position + 1) (some p) bs := by
  rw [decodeFrom, if_neg high, lead]

theorem decodeFrom_last (fits : p.low ≤ b ∧ b ≤ p.high) (last : p.more = 0) :
    decodeFrom position (some p) (b :: bs) =
      (Char.ofNat (p.bits * 64 + (b.toNat - 0x80)) :: ·) <$> decodeFrom (position + 1) none bs := by
  rw [decodeFrom, if_pos fits, last]

theorem decodeFrom_next (fits : p.low ≤ b ∧ b ≤ p.high) (next : p.more = more + 1) :
    decodeFrom position (some p) (b :: bs) =
      decodeFrom (position + 1)
        (some { p with bits := p.bits * 64 + (b.toNat - 0x80), more, low := 0x80, high := 0xBF }) bs := by
  rw [decodeFrom, if_pos fits, next]

end Octets

theorem toNat_octet {n : Nat} (small : n < 256) : (UInt8.ofNat n).toNat = n := by
  rw [UInt8.toNat_ofNat', Nat.mod_eq_of_lt small]

theorem not_single {n : Nat} (low : 128 ≤ n) (high : n < 256) : ¬UInt8.ofNat n < 0x80 := by
  rw [UInt8.lt_iff_toNat_lt, toNat_octet high]
  exact Nat.not_lt.2 low

/-- The octet inside a character that carries the six lowest bits of a number. -/
def continuation (n : Nat) : UInt8 :=
  UInt8.ofNat (n % 64 + 128)

theorem toNat_continuation (n : Nat) : (continuation n).toNat = n % 64 + 128 :=
  toNat_octet (by omega)

theorem continuation_fits (n : Nat) : 0x80 ≤ continuation n ∧ continuation n ≤ 0xBF := by
  rw [UInt8.le_iff_toNat_le, UInt8.le_iff_toNat_le, toNat_continuation]
  exact ⟨Nat.le_add_left 128 _, show n % 64 + 128 ≤ 191 by omega⟩

/-! ## Leads

The lead of each length has the highest bits of the code point, and takes the octet that is written after
it. -/

section Leads

variable {v : Nat}

theorem exists_lead_two (low : 0x80 ≤ v) (high : v ≤ 0x7FF) (position : Nat) :
    ∃ p, Partial.ofLead? (UInt8.ofNat (v / 64 % 32 + 192)) position = some p ∧ p.bits = v / 64 ∧
      p.more = 0 ∧ p.low ≤ continuation v ∧ continuation v ≤ p.high := by
  unfold Partial.ofLead?
  rw [toNat_octet (by omega)]
  dsimp only
  rw [if_pos (by omega)]
  exact ⟨_, rfl, by dsimp only; omega, rfl, continuation_fits v⟩

theorem exists_lead_three (low : 0x800 ≤ v) (high : v ≤ 0xFFFF) (valid : v < 0xD800 ∨ 0xDFFF < v)
    (position : Nat) :
    ∃ p, Partial.ofLead? (UInt8.ofNat (v / 4096 % 16 + 224)) position = some p ∧ p.bits = v / 4096 ∧
      p.more = 1 ∧ p.low ≤ continuation (v / 64) ∧ continuation (v / 64) ≤ p.high := by
  unfold Partial.ofLead?
  rw [toNat_octet (by omega)]
  dsimp only
  rw [if_neg (by omega)]
  simp only [UInt8.le_iff_toNat_le, toNat_continuation]
  -- The first lead admits no overlong form, the second no surrogate.
  split_ifs with first surrogates
  · exact ⟨_, rfl, by dsimp only; omega, rfl, show 160 ≤ _ by omega, show _ ≤ 191 by omega⟩
  · exact ⟨_, rfl, by dsimp only; omega, rfl, show 128 ≤ _ by omega, show _ ≤ 159 by omega⟩
  · exact ⟨_, rfl, by dsimp only; omega, rfl, show 128 ≤ _ by omega, show _ ≤ 191 by omega⟩
  all_goals omega

theorem exists_lead_four (low : 0x10000 ≤ v) (high : v < 0x110000) (position : Nat) :
    ∃ p, Partial.ofLead? (UInt8.ofNat (v / 262144 % 8 + 240)) position = some p ∧ p.bits = v / 262144 ∧
      p.more = 2 ∧ p.low ≤ continuation (v / 4096) ∧ continuation (v / 4096) ≤ p.high := by
  unfold Partial.ofLead?
  rw [toNat_octet (by omega)]
  dsimp only
  rw [if_neg (by omega), if_neg (by omega), if_neg (by omega), if_neg (by omega)]
  simp only [UInt8.le_iff_toNat_le, toNat_continuation]
  -- The first lead admits no overlong form, the last nothing above the highest code point.
  split_ifs with first middle last
  · exact ⟨_, rfl, by dsimp only; omega, rfl, show 144 ≤ _ by omega, show _ ≤ 191 by omega⟩
  · exact ⟨_, rfl, by dsimp only; omega, rfl, show 128 ≤ _ by omega, show _ ≤ 191 by omega⟩
  · exact ⟨_, rfl, by dsimp only; omega, rfl, show 128 ≤ _ by omega, show _ ≤ 143 by omega⟩
  · omega

end Leads

/-! ## Characters and texts -/

/-- A character is read from its octets, whatever follows them. -/
theorem decodeFrom_utf8EncodeChar (c : Char) (position : Nat) (rest : List UInt8) :
    ∃ position', decodeFrom position none (String.utf8EncodeChar c ++ rest) =
      (c :: ·) <$> decodeFrom position' none rest := by
  have valid : c.val.toNat < 0xD800 ∨ 0xDFFF < c.val.toNat ∧ c.val.toNat < 0x110000 := c.valid
  have code : Char.ofNat c.val.toNat = c := Char.ofNat_toNat c
  unfold String.utf8EncodeChar
  generalize c.val.toNat = v at valid code
  dsimp only
  split_ifs with one two three
  · have low : UInt8.ofNat v < 0x80 := by
      rw [UInt8.lt_iff_toNat_lt, toNat_octet (by omega)]
      exact Nat.lt_succ_of_le one
    refine ⟨position + 1, ?_⟩
    rw [List.singleton_append, decodeFrom_single low, toNat_octet (by omega), code]
  · obtain ⟨p, lead, bits, last, fits⟩ := exists_lead_two (by omega) two position
    have whole : p.bits * 64 + ((continuation v).toNat - 0x80) = v := by
      rw [bits, toNat_continuation]
      omega
    refine ⟨position + 1 + 1, ?_⟩
    rw [List.cons_append, decodeFrom_lead (not_single (by omega) (by omega)) lead]
    show decodeFrom _ (some p) (continuation v :: rest) = _
    rw [decodeFrom_last fits last, whole, code]
  · obtain ⟨p, lead, bits, next, fits⟩ := exists_lead_three (by omega) three (by omega) position
    have whole : (p.bits * 64 + ((continuation (v / 64)).toNat - 0x80)) * 64 +
        ((continuation v).toNat - 0x80) = v := by
      rw [bits, toNat_continuation, toNat_continuation]
      omega
    refine ⟨position + 1 + 1 + 1, ?_⟩
    rw [List.cons_append, decodeFrom_lead (not_single (by omega) (by omega)) lead]
    show decodeFrom _ (some p) (continuation (v / 64) :: continuation v :: rest) = _
    rw [decodeFrom_next fits next, decodeFrom_last (continuation_fits v) rfl]
    dsimp only
    rw [whole, code]
  · obtain ⟨p, lead, bits, next, fits⟩ := exists_lead_four (v := v) (by omega) (by omega) position
    have whole : ((p.bits * 64 + ((continuation (v / 4096)).toNat - 0x80)) * 64 +
        ((continuation (v / 64)).toNat - 0x80)) * 64 + ((continuation v).toNat - 0x80) = v := by
      rw [bits, toNat_continuation, toNat_continuation, toNat_continuation]
      omega
    refine ⟨position + 1 + 1 + 1 + 1, ?_⟩
    rw [List.cons_append, decodeFrom_lead (not_single (by omega) (by omega)) lead]
    show decodeFrom _ (some p)
      (continuation (v / 4096) :: continuation (v / 64) :: continuation v :: rest) = _
    rw [decodeFrom_next fits next, decodeFrom_next (continuation_fits (v / 64)) rfl,
      decodeFrom_last (continuation_fits v) rfl]
    dsimp only
    rw [whole, code]

theorem decodeFrom_encode (cs : List Char) (position : Nat) :
    decodeFrom position none (cs.flatMap String.utf8EncodeChar) = .ok cs := by
  induction cs generalizing position with
  | nil => rfl
  | cons c cs ih =>
    obtain ⟨position', read⟩ := decodeFrom_utf8EncodeChar c position (cs.flatMap String.utf8EncodeChar)
    rw [List.flatMap_cons, read, ih]
    rfl

theorem encode_append (s more : String) : encode (s ++ more) = encode s ++ encode more := by
  simp [encode]

/-- A text that was written is read back. -/
theorem decode_encode (s : String) : decode (encode s) = .ok s := by
  simp [decode, encode, decodeFrom_encode, Functor.map, Except.map]

/-- A text without carriage returns keeps its line breaks. -/
theorem unifyLineBreaks_eq_self {cs : List Char} (noReturn : '\r' ∉ cs) :
    unifyLineBreaks cs = cs := by
  induction cs with
  | nil => rfl
  | cons c cs ih =>
    rw [List.mem_cons, not_or] at noReturn
    obtain ⟨plain, noReturn⟩ := noReturn
    rw [unifyLineBreaks, ih noReturn]
    · rintro cs rfl; exact absurd rfl plain
    · rintro rfl; exact plain rfl

/-- No carriage return is left among unified line breaks. -/
theorem noReturn_unifyLineBreaks (cs : List Char) : '\r' ∉ unifyLineBreaks cs := by
  fun_induction unifyLineBreaks cs with
  | case1 cs ih => simpa using ih
  | case2 cs _ ih => simpa using ih
  | case3 c cs _ plain ih =>
    rw [List.mem_cons, not_or]
    exact ⟨fun same => plain same.symm, ih⟩
  | case4 => simp

end Checkin.Text

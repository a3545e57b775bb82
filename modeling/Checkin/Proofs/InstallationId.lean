import Mathlib.Data.Fintype.Basic
import Mathlib.Data.Nat.Bitwise
import Checkin.Proofs.Basic
import Checkin.World

/-!
# Installation ids and the bits drawn for them

An installation id is a UUID of version 4 in its usual form (`IsUuidOf`). Of the 128 bits that it writes, six are
the same in every id (`fixedBit?`), and the others are those that were drawn. So two draws make the same id
exactly if they agree on these 122 bits.
-/

namespace Checkin

open Text

/-! ## Digits -/

theorem Text.hexDigits_two (n : Nat) : hexDigits 2 n = [hexDigit (n / 16 % 16), hexDigit (n % 16)] := rfl

theorem Text.length_hexDigits (width n : Nat) : (hexDigits width n).length = width := by
  induction width generalizing n with
  | zero => rfl
  | succ width ih => rw [hexDigits, List.length_append, ih, List.length_singleton]

/-- The lower-case hexadecimal digits. -/
def lowerCaseDigits : List Char := "0123456789abcdef".toList

theorem hexDigit_mem_lowerCaseDigits : ∀ n < 16, hexDigit n ∈ lowerCaseDigits := by decide

/-- Digits with hyphens between them, in groups of eight, four, four, four and twelve if there are thirty-two.
-/
def hyphenated (digits : List Char) : List Char :=
  digits.take 8 ++ '-' :: (digits.drop 8).take 4 ++ '-' :: (digits.drop 12).take 4 ++
    '-' :: (digits.drop 16).take 4 ++ '-' :: digits.drop 20

theorem length_hyphenated {digits : List Char} (length : digits.length = 32) :
    (hyphenated digits).length = 36 := by
  simp [hyphenated, length]

/-- The digits are what is left without the hyphens. -/
theorem filter_hyphenated {digits : List Char} (noHyphen : '-' ∉ digits) :
    (hyphenated digits).filter (· ≠ '-') = digits := by
  have plain : ∀ part : List Char, part.Sublist digits → part.filter (· ≠ '-') = part := by
    intro part among
    refine List.filter_eq_self.2 fun c inside => ?_
    simp only [decide_eq_true_eq]
    rintro rfl
    exact noHyphen (among.subset inside)
  have group : ∀ n, (digits.drop n).take 4 ++ digits.drop (n + 4) = digits.drop n := by
    intro n
    rw [← List.drop_drop, List.take_append_drop]
  simp only [hyphenated, List.filter_append, List.filter_cons]
  rw [plain _ (List.take_sublist ..), plain _ ((List.take_sublist ..).trans (List.drop_sublist ..)),
    plain _ ((List.take_sublist ..).trans (List.drop_sublist ..)),
    plain _ ((List.take_sublist ..).trans (List.drop_sublist ..)), plain _ (List.drop_sublist ..)]
  simp [group]

namespace Draw

variable {draw other : Draw}

/-- All the hexadecimal digits of a draw. -/
def digits (draw : Draw) : List Char :=
  draw.toList.flatMap fun b => hexDigits 2 b.toNat

/-- The value of a digit. -/
def nibble (draw : Draw) (i : Fin 32) : Nat :=
  draw[i.val / 2].toNat / 16 ^ (1 - i.val % 2) % 16

theorem length_hexDigits_octet (b : UInt8) : (hexDigits 2 b.toNat).length = 2 :=
  length_hexDigits 2 b.toNat

theorem grouped_eq (draw : Draw) : draw.grouped = hyphenated draw.digits := by
  have take := take_flatMap length_hexDigits_octet
  have drop := drop_flatMap length_hexDigits_octet
  have first := take draw.toList 4
  have last := drop draw.toList 10
  have group : ∀ n, ((draw.toList.drop n).take 2).flatMap (fun b => hexDigits 2 b.toNat) =
      (draw.digits.drop (2 * n)).take 4 := by
    intro n
    rw [digits, drop, ← take]
  simp only [grouped, group]
  rw [← first, ← last]
  simp [hyphenated, List.intercalate, digits]

theorem length_digits (draw : Draw) : draw.digits.length = 32 := by
  simp [digits, List.length_flatMap, length_hexDigits]

theorem getElem?_digits (draw : Draw) (i : Fin 32) : draw.digits[i.val]? = some (hexDigit (draw.nibble i)) := by
  have place : i.val = 2 * (i.val / 2) + i.val % 2 := by omega
  have octet : draw.toList[i.val / 2]? = some draw[i.val / 2] := by
    rw [List.getElem?_eq_getElem (by simp; omega)]
    simp
  have found := getElem?_flatMap length_hexDigits_octet draw.toList (i.val / 2) (Nat.mod_lt i.val (by decide))
  rw [← place, octet, Option.bind_some, hexDigits_two] at found
  rw [digits, found, nibble]
  rcases Nat.mod_two_eq_zero_or_one i.val with even | odd
  · simp [even]
  · simp [odd]

theorem nibble_lt (draw : Draw) (i : Fin 32) : draw.nibble i < 16 :=
  Nat.mod_lt _ (by decide)

theorem exists_nibble_of_mem_digits {c : Char} (inside : c ∈ draw.digits) : ∃ i, c = hexDigit (draw.nibble i) := by
  obtain ⟨i, short, rfl⟩ := List.mem_iff_getElem.1 inside
  rw [length_digits] at short
  refine ⟨⟨i, short⟩, ?_⟩
  have found := draw.getElem?_digits ⟨i, short⟩
  rwa [List.getElem?_eq_getElem, Option.some.injEq] at found

theorem mem_lowerCaseDigits_of_mem_digits {c : Char} (inside : c ∈ draw.digits) : c ∈ lowerCaseDigits := by
  obtain ⟨i, rfl⟩ := exists_nibble_of_mem_digits inside
  exact hexDigit_mem_lowerCaseDigits _ (draw.nibble_lt i)

/-! ## Bits -/

/-- A bit of a draw. The highest bit of the first octet comes first. -/
def bit (draw : Draw) (k : Fin 128) : Bool :=
  draw[k.val / 8].toNat.testBit (7 - k.val % 8)

/-- Draws with the same bits are the same. -/
theorem ext_bit (same : ∀ k, draw.bit k = other.bit k) : draw = other := by
  refine Vector.ext fun i short => UInt8.toNat_inj.1 (Nat.eq_of_testBit_eq fun p => ?_)
  by_cases small : p < 8
  · have here := same ⟨8 * i + (7 - p), by omega⟩
    have octet : (8 * i + (7 - p)) / 8 = i := by omega
    have place : 7 - (8 * i + (7 - p)) % 8 = p := by omega
    simpa only [bit, octet, place] using here
  · have above : ∀ b : UInt8, b.toNat.testBit p = false := by
      intro b
      refine Nat.testBit_lt_two_pow (b.toNat_lt.trans_le ?_)
      exact Nat.pow_le_pow_right (by decide) (Nat.not_lt.1 small)
    rw [above, above]

theorem testBit_digit {j : Nat} (low : j < 4) (n i : Nat) :
    (n / 16 ^ i % 16).testBit j = n.testBit (j + 4 * i) := by
  have sixteen : 16 ^ i = 2 ^ (4 * i) := (Nat.pow_mul 2 4 i).symm
  rw [sixteen, show 16 = 2 ^ 4 from rfl, Nat.testBit_mod_two_pow, Nat.testBit_div_two_pow]
  simp [low]

/-- Each digit writes four bits. -/
theorem testBit_nibble (draw : Draw) (k : Fin 128) :
    (draw.nibble ⟨k.val / 4, by omega⟩).testBit (3 - k.val % 4) = draw.bit k := by
  have octet : k.val / 4 / 2 = k.val / 8 := by omega
  have place : 3 - k.val % 4 + 4 * (1 - k.val / 4 % 2) = 7 - k.val % 8 := by omega
  simp only [nibble, octet, bit]
  rw [testBit_digit (by omega), place]

end Draw

/-- A bit of the number that hexadecimal digits write. The highest bit of the first digit comes first. -/
def digitBit? (digits : List Char) (k : Nat) : Option Bool :=
  (digits[k / 4]?.bind hexValue?).map fun n => n.testBit (3 - k % 4)

theorem Draw.digitBit?_digits (draw : Draw) (k : Fin 128) : digitBit? draw.digits k = some (draw.bit k) := by
  have digit := draw.getElem?_digits ⟨k.val / 4, by omega⟩
  have read := hexValue?_hexDigit _ (draw.nibble_lt ⟨k.val / 4, by omega⟩)
  rw [digitBit?, digit, Option.bind_some, read, Option.map_some, draw.testBit_nibble]

/-! ## Fixed bits -/

/-- The bits that are the same in every id: the four of the version, and the two of the variant. -/
def fixedBit? (k : Fin 128) : Option Bool :=
  [(48, false), (49, true), (50, false), (51, false), (64, true), (65, false)].lookup k.val

theorem length_freeBits : ((List.finRange 128).filter fun k => (fixedBit? k).isNone).length = 122 := by rfl

/-- An octet of which some bits are kept and the others replaced. -/
theorem testBit_replaced {keep set : UInt8} {p : Nat}
    (apart : keep.toNat.testBit p = true → set.toNat.testBit p = false) (b : UInt8) :
    ((b &&& keep) ||| set).toNat.testBit p =
      (if keep.toNat.testBit p then none else some (set.toNat.testBit p)).getD (b.toNat.testBit p) := by
  rw [UInt8.toNat_or, UInt8.toNat_and, Nat.testBit_or, Nat.testBit_and]
  cases kept : keep.toNat.testBit p with
  | false => simp
  | true => simp [apart kept]

theorem fixedBit?_version : ∀ k : Fin 128, k.val / 8 = 6 → fixedBit? k =
    if (0x0F : UInt8).toNat.testBit (7 - k.val % 8) then none
    else some ((0x40 : UInt8).toNat.testBit (7 - k.val % 8)) := by
  decide

theorem fixedBit?_variant : ∀ k : Fin 128, k.val / 8 = 8 → fixedBit? k =
    if (0x3F : UInt8).toNat.testBit (7 - k.val % 8) then none
    else some ((0x80 : UInt8).toNat.testBit (7 - k.val % 8)) := by
  decide

theorem fixedBit?_eq_none : ∀ k : Fin 128, k.val / 8 ≠ 6 → k.val / 8 ≠ 8 → fixedBit? k = none := by
  decide

theorem Draw.getElem_stamped (draw : Draw) {i : Nat} (short : i < 16) :
    draw.stamped[i] =
      if 8 = i then (draw[8] &&& 0x3F) ||| 0x80
      else if 6 = i then (draw[6] &&& 0x0F) ||| 0x40 else draw[i] := by
  unfold stamped
  rw [Vector.getElem_set, Vector.getElem_set]

/-- A stamped draw has the fixed bits, and else those that were drawn. -/
theorem Draw.bit_stamped (draw : Draw) (k : Fin 128) :
    draw.stamped.bit k = (fixedBit? k).getD (draw.bit k) := by
  have place : 7 - k.val % 8 < 8 := by omega
  unfold bit
  rw [getElem_stamped]
  -- Only the octets of the variant and of the version are not kept as a whole.
  by_cases variant : k.val / 8 = 8
  · have apart : ∀ p < 8, (0x3F : UInt8).toNat.testBit p = true → (0x80 : UInt8).toNat.testBit p = false := by
      decide
    rw [if_pos variant.symm, fixedBit?_variant k variant, testBit_replaced (apart _ place)]
    simp only [variant]
  by_cases version : k.val / 8 = 6
  · have apart : ∀ p < 8, (0x0F : UInt8).toNat.testBit p = true → (0x40 : UInt8).toNat.testBit p = false := by
      decide
    rw [if_neg (Ne.symm variant), if_pos version.symm, fixedBit?_version k version,
      testBit_replaced (apart _ place)]
    simp only [version]
  · rw [if_neg (Ne.symm variant), if_neg (Ne.symm version), fixedBit?_eq_none k version variant]
    rfl

/-! ## Ids -/

/-- A text is a UUID of version 4 in its usual form, and its bits are the fixed ones and those that were drawn.
-/
structure IsUuidOf (draw : Draw) (id : String) (digits : List Char) : Prop where
  hyphenated : id.toList = hyphenated digits
  length : id.length = 36 ∧ digits.length = 32
  lowerCase : ∀ c ∈ digits, c ∈ lowerCaseDigits
  version : digits[12]? = some '4'
  variant : ∃ c ∈ ['8', '9', 'a', 'b'], digits[16]? = some c
  drawn : ∀ k, fixedBit? k = none → digitBit? digits k = some (draw.bit k)

/-- The values of a digit whose bits are known. -/
theorem hexDigit_of_version : ∀ n < 16, n.testBit 3 = false → n.testBit 2 = true → n.testBit 1 = false →
    n.testBit 0 = false → hexDigit n = '4' := by
  decide

theorem hexDigit_of_variant : ∀ n < 16, n.testBit 3 = true → n.testBit 2 = false →
    hexDigit n ∈ ['8', '9', 'a', 'b'] := by
  decide

theorem Draw.testBit_nibble_of_fixed (draw : Draw) {k : Fin 128} {b : Bool} (fixed : fixedBit? k = some b) :
    (draw.stamped.nibble ⟨k.val / 4, by omega⟩).testBit (3 - k.val % 4) = b := by
  rw [testBit_nibble, bit_stamped, fixed, Option.getD_some]

theorem isUuidOf_installationId (draw : Draw) : IsUuidOf draw (installationId draw) draw.stamped.digits where
  hyphenated := by rw [installationId, String.toList_ofList, Draw.grouped_eq]
  length := by
    refine ⟨?_, Draw.length_digits _⟩
    rw [installationId, String.length_ofList, Draw.grouped_eq, length_hyphenated (Draw.length_digits _)]
  lowerCase := fun c inside => Draw.mem_lowerCaseDigits_of_mem_digits inside
  version := by
    have four : hexDigit (draw.stamped.nibble 12) = '4' :=
      hexDigit_of_version _ (Draw.nibble_lt ..) (draw.testBit_nibble_of_fixed (k := 48) rfl)
        (draw.testBit_nibble_of_fixed (k := 49) rfl) (draw.testBit_nibble_of_fixed (k := 50) rfl)
        (draw.testBit_nibble_of_fixed (k := 51) rfl)
    exact (draw.stamped.getElem?_digits 12).trans (congrArg some four)
  variant := by
    refine ⟨_, ?_, draw.stamped.getElem?_digits 16⟩
    exact hexDigit_of_variant _ (Draw.nibble_lt ..) (draw.testBit_nibble_of_fixed (k := 64) rfl)
      (draw.testBit_nibble_of_fixed (k := 65) rfl)
  drawn := by
    intro k free
    rw [Draw.digitBit?_digits, Draw.bit_stamped, free, Option.getD_none]

theorem IsUuidOf.eq_filter {draw : Draw} {id : String} {digits : List Char} (writes : IsUuidOf draw id digits) :
    digits = id.toList.filter (· ≠ '-') := by
  have noHyphen : '-' ∉ digits := fun inside => absurd (writes.lowerCase _ inside) (by decide)
  rw [writes.hyphenated, filter_hyphenated noHyphen]

/-- Two draws make the same id exactly if they agree on the bits that are not fixed. -/
theorem installationId_eq_iff {draw other : Draw} :
    installationId draw = installationId other ↔ ∀ k, fixedBit? k = none → draw.bit k = other.bit k := by
  have writes := isUuidOf_installationId draw
  have writes' := isUuidOf_installationId other
  constructor
  -- The digits are found in the text again, and in them the bits that were drawn.
  · intro same k free
    have digits : draw.stamped.digits = other.stamped.digits := by
      rw [writes.eq_filter, writes'.eq_filter, same]
    have drawn := writes.drawn k free
    rw [digits, writes'.drawn k free] at drawn
    exact (Option.some.inj drawn).symm
  · intro agree
    have stamped : draw.stamped = other.stamped := by
      refine Draw.ext_bit fun k => ?_
      rw [Draw.bit_stamped, Draw.bit_stamped]
      cases free : fixedBit? k with
      | none => exact agree k free
      | some b => rfl
    rw [installationId, installationId, stamped]

end Checkin

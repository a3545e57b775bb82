import Mathlib.Data.Nat.Digits.Defs
import Checkin.Proofs.Text.Blank
import Checkin.Proofs.Text.Digits

/-!
# Numerals written and read

What is read as a whole number is said by a grammar (`IsNumeral`): perhaps a sign, and then decimal digits of
any script, not too many, with single underscores allowed between two of them. What is written for a whole
number is visible, and is a numeral of that number unless it has too many digits.
-/

namespace Checkin.Text

/-- Decimal digits, the highest first, with single underscores between any two of them, and what they stand
for one by one. -/
inductive SpellsDigits : List Char → List Nat → Prop
  | last {c d} : digitValue? c = some d → SpellsDigits [c] [d]
  | next {c cs d ds} : digitValue? c = some d → SpellsDigits cs ds → SpellsDigits (c :: cs) (d :: ds)
  | across {c cs d ds} : digitValue? c = some d → SpellsDigits cs ds →
      SpellsDigits (c :: '_' :: cs) (d :: ds)

/-- A sign, or none, and the factor that it stands for. -/
inductive SpellsSign : List Char → Int → Prop
  | none : SpellsSign [] 1
  | plus : SpellsSign ['+'] 1
  | minus : SpellsSign ['-'] (-1)

/-- A sign and not too many digits spell a whole number: the value of the digits in base ten, with that sign.
-/
inductive IsNumeral : List Char → Int → Prop
  | intro {sign cs factor ds} : SpellsSign sign factor → SpellsDigits cs ds → ds.length ≤ maxDigits →
      IsNumeral (sign ++ cs) (factor * (Nat.ofDigits 10 ds.reverse : Nat))

variable {c : Char} {cs : List Char} {d value count : Nat} {ds : List Nat} {n : Int}

/-! ## Digits read -/

theorem SpellsDigits.exists_first (spells : SpellsDigits cs ds) :
    ∃ c rest d, cs = c :: rest ∧ digitValue? c = some d := by
  cases spells with
  | last digit | next digit _ | across digit _ => exact ⟨_, _, _, rfl, digit⟩

theorem IsNumeral.ne_nil (numeral : IsNumeral cs n) : cs ≠ [] := by
  obtain ⟨-, spells, -⟩ := numeral
  obtain ⟨c, rest, d, rfl, -⟩ := spells.exists_first
  simp

theorem readDigitsAfter_digit (digit : digitValue? c = some d) (value count : Nat) (rest : List Char) :
    readDigitsAfter value count (c :: rest) = readDigitsAfter (value * 10 + d) (count + 1) rest := by
  have notUnderscore : c ≠ '_' := by
    rintro rfl
    have none : digitValue? '_' = none := by decide
    rw [none] at digit
    cases digit
  rw [readDigitsAfter, digit]
  rintro other cs rfl
  exact absurd rfl notUnderscore

/-- An underscore before more digits says nothing. -/
theorem readDigitsAfter_underscore (spells : SpellsDigits cs ds) (value count : Nat) :
    readDigitsAfter value count ('_' :: cs) = readDigitsAfter value count cs := by
  obtain ⟨c, rest, d, rfl, digit⟩ := spells.exists_first
  rw [readDigitsAfter_digit digit, readDigitsAfter, digit]

/-- Digits are read one by one, each appended to the value of those before it. -/
theorem readDigitsAfter_of_spells (spells : SpellsDigits cs ds) (value count : Nat) :
    readDigitsAfter value count cs =
      some (ds.foldl (fun value d => d + 10 * value) value, count + ds.length) := by
  have appended : ∀ value d : Nat, value * 10 + d = d + 10 * value := by
    intro value d
    omega
  induction spells generalizing value count with
  | last digit => rw [readDigitsAfter_digit digit, readDigitsAfter, appended]; rfl
  | next digit _ ih =>
    rw [readDigitsAfter_digit digit, ih, appended, List.foldl_cons, List.length_cons, Nat.add_right_comm,
      Nat.add_assoc]
  | across digit spells ih =>
    rw [readDigitsAfter_digit digit, readDigitsAfter_underscore spells, ih, appended, List.foldl_cons,
      List.length_cons, Nat.add_right_comm, Nat.add_assoc]

theorem ofDigits_reverse (ds : List Nat) :
    Nat.ofDigits 10 ds.reverse = ds.foldl (fun value d => d + 10 * value) 0 := by
  rw [Nat.ofDigits_eq_foldr, List.foldr_reverse]
  rfl

theorem readDigits?_of_spells (spells : SpellsDigits cs ds) :
    readDigits? cs = some (Nat.ofDigits 10 ds.reverse, ds.length) := by
  have after := readDigitsAfter_of_spells spells 0 0
  obtain ⟨c, rest, d, rfl, digit⟩ := spells.exists_first
  rw [readDigitsAfter_digit digit] at after
  rw [readDigits?, digit, ofDigits_reverse]
  simpa using after

/-- What is read after a digit spells digits together with it. -/
theorem exists_spells_of_readDigitsAfter {result : Nat × Nat} (digit : digitValue? c = some d)
    (read : readDigitsAfter value count cs = some result) : ∃ ds, SpellsDigits (c :: cs) (d :: ds) := by
  fun_induction readDigitsAfter value count cs generalizing c d with
  | case1 => exact ⟨[], .last digit⟩
  | case2 _ _ _ _ _ digit' ih =>
    obtain ⟨ds, spells⟩ := ih digit' read
    exact ⟨_, .across digit spells⟩
  | case4 _ _ _ _ _ _ digit' ih =>
    obtain ⟨ds, spells⟩ := ih digit' read
    exact ⟨_, .next digit spells⟩
  | case3 | case5 => cases read

theorem readDigits?_eq_some_iff :
    readDigits? cs = some (value, count) ↔
      ∃ ds, SpellsDigits cs ds ∧ Nat.ofDigits 10 ds.reverse = value ∧ ds.length = count := by
  constructor
  · intro read
    obtain ⟨ds, spells⟩ : ∃ ds, SpellsDigits cs ds := by
      unfold readDigits? at read
      split at read
      · cases read
      · split at read
        · next digit =>
          obtain ⟨ds, spells⟩ := exists_spells_of_readDigitsAfter digit read
          exact ⟨_, spells⟩
        · cases read
    rw [readDigits?_of_spells spells] at read
    cases read
    exact ⟨ds, spells, rfl, rfl⟩
  · rintro ⟨ds, spells, rfl, rfl⟩
    exact readDigits?_of_spells spells

theorem readUnsigned?_eq_some_iff :
    readUnsigned? cs = some value ↔
      ∃ ds, SpellsDigits cs ds ∧ ds.length ≤ maxDigits ∧ Nat.ofDigits 10 ds.reverse = value := by
  unfold readUnsigned?
  constructor
  · intro read
    split at read
    · next digits =>
      split at read
      · next short =>
        cases read
        obtain ⟨ds, spells, value, rfl⟩ := readDigits?_eq_some_iff.1 digits
        exact ⟨ds, spells, short, value⟩
      · cases read
    · cases read
  · rintro ⟨ds, spells, short, rfl⟩
    simp only [readDigits?_of_spells spells, if_pos short]

/-! ## Numerals read -/

/-- No sign is in front of some characters. -/
def Unsigned (cs : List Char) : Prop :=
  ∀ rest, cs ≠ '+' :: rest ∧ cs ≠ '-' :: rest

theorem SpellsDigits.unsigned (spells : SpellsDigits cs ds) : Unsigned cs := by
  have signs : digitValue? '+' = none ∧ digitValue? '-' = none := by decide
  obtain ⟨c, rest', d, rfl, digit⟩ := spells.exists_first
  intro rest
  constructor
  · rintro ⟨⟩
    cases signs.1.symm.trans digit
  · rintro ⟨⟩
    cases signs.2.symm.trans digit

/-- A sign is read as its factor; where there is none, the digits must not be preceded by one. -/
theorem readNumeral?_of_sign {sign : List Char} {factor : Int} (spells : SpellsSign sign factor)
    (unsigned : sign = [] → Unsigned cs) :
    readNumeral? (sign ++ cs) = (readUnsigned? cs).map fun value : Nat => factor * value := by
  cases spells with
  | none =>
    have unsigned := unsigned rfl
    rw [List.nil_append, readNumeral?]
    · cases readUnsigned? cs <;> simp
    · exact fun rest => (unsigned rest).1
    · exact fun rest => (unsigned rest).2
  | plus =>
    rw [List.singleton_append, readNumeral?]
    cases readUnsigned? cs <;> simp
  | minus =>
    rw [List.singleton_append, readNumeral?]
    cases readUnsigned? cs <;> simp

theorem exists_sign (cs : List Char) :
    ∃ sign rest factor, cs = sign ++ rest ∧ SpellsSign sign factor ∧ (sign = [] → Unsigned rest) := by
  by_cases plus : ∃ rest, cs = '+' :: rest
  · obtain ⟨rest, rfl⟩ := plus
    exact ⟨['+'], rest, 1, rfl, .plus, by simp⟩
  · by_cases minus : ∃ rest, cs = '-' :: rest
    · obtain ⟨rest, rfl⟩ := minus
      exact ⟨['-'], rest, -1, rfl, .minus, by simp⟩
    · refine ⟨[], cs, 1, rfl, .none, fun _ rest => ?_⟩
      exact ⟨fun same => plus ⟨rest, same⟩, fun same => minus ⟨rest, same⟩⟩

/-- What is read as a whole number is a numeral of that number, and every numeral is read. -/
theorem readNumeral?_eq_some_iff : readNumeral? cs = some n ↔ IsNumeral cs n := by
  constructor
  · intro read
    obtain ⟨sign, rest, factor, rfl, spellsSign, unsigned⟩ := exists_sign cs
    rw [readNumeral?_of_sign spellsSign unsigned, Option.map_eq_some_iff] at read
    obtain ⟨value, digits, rfl⟩ := read
    obtain ⟨ds, spells, short, rfl⟩ := readUnsigned?_eq_some_iff.1 digits
    exact .intro spellsSign spells short
  · rintro ⟨spellsSign, spells, short⟩
    have digits := readUnsigned?_eq_some_iff.2 ⟨_, spells, short, rfl⟩
    rw [readNumeral?_of_sign spellsSign fun _ => spells.unsigned, digits]
    rfl

/-! ## Numerals written -/

theorem isVisible_digit : ∀ d < 10, isVisible (Char.ofNat (48 + d)) = true := by decide

theorem isVisible_of_mem_numeralChars {c : Char} (inside : c ∈ numeralChars n) : isVisible c = true := by
  rcases mem_numeralChars inside with rfl | digit
  · decide
  · obtain ⟨d, small, rfl⟩ := exists_of_isDigit digit
    exact isVisible_digit d small

theorem digitValue?_digit : ∀ d < 10, digitValue? (Char.ofNat (48 + d)) = some d := by decide

theorem SpellsDigits.append_singleton (spells : SpellsDigits cs ds) (digit : digitValue? c = some d) :
    SpellsDigits (cs ++ [c]) (ds ++ [d]) := by
  induction spells with
  | last digit' => exact .next digit' (.last digit)
  | next digit' _ ih => exact .next digit' ih
  | across digit' _ ih => exact .across digit' ih

/-- The digits that are written for a number spell it, one character for each. -/
theorem exists_spells_digits (n : Nat) :
    ∃ ds, SpellsDigits (digits n) ds ∧ ds.length = (digits n).length ∧
      Nat.ofDigits 10 ds.reverse = n := by
  induction n using digits_induction with
  | digit n small =>
    rw [digits_of_lt small]
    exact ⟨[n], .last (digitValue?_digit n small), rfl, Nat.ofDigits_singleton⟩
  | more n large ih =>
    obtain ⟨ds, spells, many, value⟩ := ih
    have last : n % 10 < 10 := Nat.mod_lt n (by omega)
    rw [digits_of_le large]
    refine ⟨ds ++ [n % 10], spells.append_singleton (digitValue?_digit _ last), by simp [many], ?_⟩
    rw [List.reverse_append, List.reverse_singleton, List.singleton_append, Nat.ofDigits_cons, value]
    exact Nat.mod_add_div n 10

/-- What is written for a whole number is a numeral of it. -/
theorem isNumeral_numeralChars (short : (digits n.natAbs).length ≤ maxDigits) :
    IsNumeral (numeralChars n) n := by
  obtain ⟨ds, spells, many, value⟩ := exists_spells_digits n.natAbs
  have short' : ds.length ≤ maxDigits := many ▸ short
  cases n with
  | ofNat n =>
    have numeral := IsNumeral.intro .none spells short'
    rwa [value, one_mul] at numeral
  | negSucc n =>
    have numeral := IsNumeral.intro .minus spells short'
    rwa [value, neg_one_mul] at numeral

/-- A whole number that was written in plain decimal is read. -/
theorem readNumeral?_numeralChars (short : (digits n.natAbs).length ≤ maxDigits) :
    readNumeral? (numeralChars n) = some n :=
  readNumeral?_eq_some_iff.2 (isNumeral_numeralChars short)

end Checkin.Text

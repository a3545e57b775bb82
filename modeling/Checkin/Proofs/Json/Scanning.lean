import Checkin.Json.Writer
import Checkin.Proofs.Text.Digits
import Checkin.Proofs.Text.Runs

/-!
# Scanning what was written

What the scanner does to a piece of text is said once for whatever follows it, as `Scans`. A written string
and a written whole number come out as the tokens they stand for.
-/

namespace Checkin.Json

open Checkin.Text

/-- What the scanner does to some characters, whatever follows them. -/
abbrev Scans := Runs scanFrom

theorem Scans.char {state state' : Scan} {c : Char} {tokens : List Token}
    (step : scanChar state c = some (state', tokens)) : Scans state [c] state' tokens := by
  intro rest
  simp [scanFrom, step]

theorem Scans.cons {state middle state' : Scan} {c : Char} {cs : List Char} {tokens : List Token}
    (step : scanChar state c = some (middle, [])) (rest : Scans middle cs state' tokens) :
    Scans state (c :: cs) state' tokens :=
  (Scans.char step).append_silent rest

/-- A text that leaves no token open has the tokens that scanning it gives. -/
theorem Scans.scan_eq {cs : List Char} {tokens : List Token} (scans : Scans .between cs .between tokens) :
    scan (String.ofList cs) = some tokens := by
  have all : scanFrom .between cs = some (tokens ++ []) := scans.read_eq rfl
  simpa [scan] using all

/-! ## Strings -/

/-- The four digits of an escape are read to the code they write. -/
theorem scans_hexDigits {done : List Char} {high : Option Nat} {n : Nat} {state : Scan}
    (small : n < 65536) (close : closeHex? done high n = some state) :
    Scans (.hex done high 0 4) (hexDigits 4 n) state [] := by
  have digit := fun k => hexValue?_hexDigit (k % 16) (Nat.mod_lt k (by decide))
  have value : (((0 * 16 + n / 16 / 16 / 16 % 16) * 16 + n / 16 / 16 % 16) * 16 + n / 16 % 16) * 16
      + n % 16 = n := by omega
  simp only [hexDigits, List.nil_append, List.cons_append]
  refine Scans.cons (by simp only [scanChar, digit, Option.bind_some]; rfl) ?_
  refine Scans.cons (by simp only [scanChar, digit, Option.bind_some]; rfl) ?_
  refine Scans.cons (by simp only [scanChar, digit, Option.bind_some]; rfl) ?_
  apply Scans.char
  simp only [scanChar, digit, Option.bind_some, value, close]
  rfl

theorem scans_shortEscape {done : List Char} {mark c : Char} (known : shortEscape? mark = some c) :
    Scans (.text done) ['\\', mark] (.text (c :: done)) [] := by
  have other : mark ≠ 'u' := by
    rintro rfl
    cases known
  have opened : scanChar (.text done) '\\' = some (.escape done, []) := by simp [scanChar]
  refine Scans.cons opened (Scans.char ?_)
  simp [scanChar, known, other]

/-- Every character is read back from what is written for it. -/
theorem scans_escaped (done : List Char) (c : Char) :
    Scans (.text done) (escaped c) (.text (c :: done)) [] := by
  unfold escaped
  split
  next h => subst h; exact scans_shortEscape rfl
  split
  next h => subst h; exact scans_shortEscape rfl
  split
  next h => subst h; exact scans_shortEscape rfl
  split
  next h => subst h; exact scans_shortEscape rfl
  split
  next h => subst h; exact scans_shortEscape rfl
  split
  next h => subst h; exact scans_shortEscape rfl
  split
  next h => subst h; exact scans_shortEscape rfl
  split
  next control =>
    have opened : scanChar (.text done) '\\' = some (.escape done, []) := by simp [scanChar]
    have marked : scanChar (.escape done) 'u' = some (.hex done none 0 4, []) := by simp [scanChar]
    refine Scans.cons opened (Scans.cons marked ?_)
    apply scans_hexDigits (by omega)
    rw [closeHex?, if_neg (by omega), if_neg (by omega), Char.ofNat_toNat]
  next quote backslash _ _ _ _ _ printable =>
    apply Scans.char
    simp [scanChar, quote, backslash, printable]

theorem scans_flatMap_escaped (done cs : List Char) :
    Scans (.text done) (cs.flatMap escaped) (.text (cs.reverse ++ done)) [] := by
  induction cs generalizing done with
  | nil => exact Runs.nil _
  | cons c cs ih =>
    have both := (scans_escaped done c).append (ih (c :: done))
    simpa using both

/-- A written string is one token, the string itself. -/
theorem scans_stringChars (s : String) : Scans .between (stringChars s) .between [.text s] := by
  have opened : scanChar .between '"' = some (.text [], []) := by
    simp [scanChar, startToken, isSpace]
  refine Scans.cons opened ((scans_flatMap_escaped [] s.toList).append_silent (Scans.char ?_))
  simp [scanChar]

/-! ## Words -/

/-- Whether a character may stand in a word: it is neither white space nor begins another token. -/
def isWordChar (c : Char) : Bool :=
  !(isSpace c || c == '"' || (punctuation? c).isSome)

theorem scans_word {done cs : List Char} (inside : ∀ c ∈ cs, isWordChar c = true) :
    Scans (.word done) cs (.word (cs.reverse ++ done)) [] := by
  induction cs generalizing done with
  | nil => exact Runs.nil _
  | cons c cs ih =>
    obtain ⟨here, rest⟩ := List.forall_mem_cons.1 inside
    have step : scanChar (.word done) c = some (.word (c :: done), []) := by
      simp only [isWordChar, Bool.not_eq_true'] at here
      simp [scanChar, here]
    simpa using Scans.cons step (ih rest)

/-- A word begins with its first character and goes on with the others. -/
theorem scans_beginWord {c : Char} {cs : List Char} (inside : ∀ d ∈ c :: cs, isWordChar d = true) :
    Scans .between (c :: cs) (.word (c :: cs).reverse) [] := by
  obtain ⟨first, rest⟩ := List.forall_mem_cons.1 inside
  have start : scanChar .between c = some (.word [c], []) := by
    simp only [isWordChar, Bool.not_eq_true', Bool.or_eq_false_iff, beq_eq_false_iff_ne,
      Option.isSome_eq_false_iff, Option.isNone_iff_eq_none] at first
    simp [scanChar, startToken, first]
  simpa using Scans.cons start (scans_word rest)

/-- Punctuation is no white space and begins no string. -/
theorem startToken_punctuation {c : Char} {token : Token} (mark : punctuation? c = some token) :
    startToken c = (.between, [token]) := by
  have space : isSpace c = false := by
    cases hspace : isSpace c with
    | false => rfl
    | true =>
      simp only [isSpace, Bool.or_eq_true, beq_iff_eq] at hspace
      rcases hspace with ((rfl | rfl) | rfl) | rfl <;> simp [punctuation?] at mark
  have quote : c ≠ '"' := by
    rintro rfl
    simp [punctuation?] at mark
  simp [startToken, space, quote, mark]

theorem scans_punctuation {c : Char} {token : Token} (mark : punctuation? c = some token) :
    Scans .between [c] .between [token] :=
  Scans.char (by simp [scanChar, startToken_punctuation mark])

/-- Punctuation ends a word. -/
theorem scans_endWord {done : List Char} {c : Char} {token : Token} {v : Value}
    (mark : punctuation? c = some token) (word : word? done.reverse = some v) :
    Scans (.word done) [c] .between [.value v, token] := by
  apply Scans.char
  simp [scanChar, mark, word, startToken_punctuation mark]

/-! ## Whole numbers -/

theorem isWordChar_of_isDigit {c : Char} (digit : c.isDigit = true) : isWordChar c = true := by
  have each : ∀ d < 10, isWordChar (Char.ofNat (48 + d)) = true := by decide
  obtain ⟨d, small, rfl⟩ := exists_of_isDigit digit
  exact each d small

/-- A word without letters can only be a number. -/
theorem word?_eq_number? {cs : List Char} (plain : ∀ c ∈ cs, c = '-' ∨ c.isDigit = true) :
    word? cs = number? cs := by
  have lettered : ∀ word : String, word.toList.any (fun c => c != '-' && !c.isDigit) = true →
      String.ofList cs ≠ word := by
    rintro word letters rfl
    obtain ⟨c, member, letter⟩ := List.any_eq_true.1 letters
    rcases plain c (by simpa using member) with sign | digit
    · simp [sign] at letter
    · simp [digit] at letter
  unfold word?
  split
  next h => exact absurd h (lettered _ rfl)
  next h => exact absurd h (lettered _ rfl)
  next h => exact absurd h (lettered _ rfl)
  next h => exact absurd h (lettered _ rfl)
  next h => exact absurd h (lettered _ rfl)
  next h => exact absurd h (lettered _ rfl)
  next => rfl

/-- Digits, perhaps after a sign, are one word. -/
theorem scans_number {cs : List Char} (plain : ∀ c ∈ cs, c = '-' ∨ c.isDigit = true) (some : cs ≠ []) :
    Scans .between cs (.word cs.reverse) [] := by
  have inside : ∀ c ∈ cs, isWordChar c = true := by
    intro c member
    rcases plain c member with rfl | digit
    · decide
    · exact isWordChar_of_isDigit digit
  obtain ⟨c, cs, rfl⟩ := List.exists_cons_of_ne_nil some
  exact scans_beginWord inside

/-- A written whole number is one word, which stands for that number, when punctuation follows it. -/
theorem scans_numeralChars {i : Int} {c : Char} {token : Token}
    (short : (digits i.natAbs).length ≤ maxWholeDigits) (mark : punctuation? c = some token) :
    Scans .between (numeralChars i ++ [c]) .between [.value (.int i), token] := by
  have plain := fun d => mem_numeralChars (i := i) (c := d)
  have word : word? (numeralChars i) = some (.int i) :=
    (word?_eq_number? plain).trans (number?_numeralChars short)
  obtain ⟨d, ds, equal, -⟩ := exists_numeralChars_eq_cons i
  have some : numeralChars i ≠ [] := by simp [equal]
  exact (scans_number plain some).append_silent (scans_endWord mark (by simpa using word))

end Checkin.Json

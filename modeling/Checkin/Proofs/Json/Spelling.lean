import Checkin.Proofs.Json.Objects

/-!
# Spellings of objects

An object of texts and whole numbers can be written in many ways. White space may stand around every
structural character, and every character of a string may be written as itself, unless it has to be
escaped, or by any escape that stands for it. `SpellsObject` is the grammar of the JSON standard for such
objects, together with the members that are written; every spelling is read as its members.
-/

namespace Checkin.Json

open Checkin.Text

/-! ## The grammar -/

/-- White space. -/
def Space (cs : List Char) : Prop :=
  ∀ c ∈ cs, c = ' ' ∨ c = '\t' ∨ c = '\n' ∨ c = '\r'

/-- A structural character with white space around it. -/
inductive Mark (c : Char) : List Char → Prop
  | mk {before after : List Char} : Space before → Space after → Mark c (before ++ c :: after)

/-- A hexadecimal digit, in either case. -/
def IsHexDigit (d : Nat) (c : Char) : Prop :=
  "0123456789abcdef".toList[d]? = some c ∨ "0123456789ABCDEF".toList[d]? = some c

instance (d : Nat) (c : Char) : Decidable (IsHexDigit d c) :=
  inferInstanceAs (Decidable (_ ∨ _))

/-- The four digits of a code. -/
inductive SpellsCode : Nat → List Char → Prop
  | mk {a b c d : Nat} {p q r s : Char} : IsHexDigit a p → IsHexDigit b q → IsHexDigit c r →
      IsHexDigit d s → SpellsCode (a * 0x1000 + b * 0x100 + c * 0x10 + d) [p, q, r, s]

/-- The letters of the short escapes, and the characters they stand for. -/
def shortEscapes : List (Char × Char) :=
  [('"', '"'), ('\\', '\\'), ('/', '/'), ('b', '\x08'), ('f', '\x0c'), ('n', '\n'), ('r', '\r'),
    ('t', '\t')]

/-- The ways to write a character in a string: as itself, by a short escape, by its code, or by a pair of
codes if its own is too large for four digits. -/
inductive SpellsChar (c : Char) : List Char → Prop
  | plain : c ≠ '"' → c ≠ '\\' → 0x20 ≤ c.toNat → SpellsChar c [c]
  | short {letter : Char} : (letter, c) ∈ shortEscapes → SpellsChar c ['\\', letter]
  | code {cs : List Char} : SpellsCode c.toNat cs → SpellsChar c ('\\' :: 'u' :: cs)
  | pair {high low : Nat} {cs ds : List Char} : 0xD800 ≤ high → high < 0xDC00 → 0xDC00 ≤ low →
      low < 0xE000 → c.toNat = 0x10000 + (high - 0xD800) * 0x400 + (low - 0xDC00) →
      SpellsCode high cs → SpellsCode low ds →
      SpellsChar c ('\\' :: 'u' :: cs ++ '\\' :: 'u' :: ds)

/-- Characters one after another, each written in some way. -/
inductive SpellsChars : List Char → List Char → Prop
  | nil : SpellsChars [] []
  | cons {c : Char} {cs ds es : List Char} : SpellsChar c ds → SpellsChars cs es →
      SpellsChars (c :: cs) (ds ++ es)

/-- A string between its quotes. -/
inductive SpellsString (s : String) : List Char → Prop
  | mk {cs : List Char} : SpellsChars s.toList cs → SpellsString s ('"' :: cs ++ ['"'])

/-- A text or a whole number; zero may have a sign. -/
inductive SpellsValue : Value → List Char → Prop
  | text {s : String} {cs : List Char} : SpellsString s cs → SpellsValue (.text s) cs
  | whole (n : Nat) : SpellsValue (.int n) (digits n)
  | negative (n : Nat) : SpellsValue (.int (-n)) ('-' :: digits n)

/-- A name, a colon and a value. -/
inductive SpellsMember : String × Value → List Char → Prop
  | mk {name : String} {v : Value} {cs colon ds : List Char} : SpellsString name cs → Mark ':' colon →
      SpellsValue v ds → SpellsMember (name, v) (cs ++ colon ++ ds)

/-- One or more members with commas between them. -/
inductive SpellsMembers : List (String × Value) → List Char → Prop
  | last {m : String × Value} {cs : List Char} : SpellsMember m cs → SpellsMembers [m] cs
  | more {m : String × Value} {ms : List (String × Value)} {cs comma ds : List Char} :
      SpellsMember m cs → Mark ',' comma → SpellsMembers ms ds → SpellsMembers (m :: ms) (cs ++ comma ++ ds)

/-- Members between braces. -/
inductive SpellsObject : List (String × Value) → List Char → Prop
  | empty {opening closing : List Char} : Mark '\x7b' opening → Mark '\x7d' closing →
      SpellsObject [] (opening ++ closing)
  | members {ms : List (String × Value)} {opening cs closing : List Char} : Mark '\x7b' opening →
      SpellsMembers ms cs → Mark '\x7d' closing → SpellsObject ms (opening ++ cs ++ closing)

/-! ## Plain spellings -/

/-- No white space need stand around a structural character. -/
theorem mark_bare (c : Char) : Mark c [c] :=
  @Mark.mk c [] [] (by simp [Space]) (by simp [Space])

/-- Without special characters, a string may be written as it stands. -/
theorem spellsString_plain (s : String)
    (plain : (s.toList.all fun c => c ≠ '"' ∧ c ≠ '\\' ∧ 0x20 ≤ c.toNat) = true) :
    SpellsString s ('"' :: s.toList ++ ['"']) := by
  constructor
  generalize s.toList = cs at plain
  induction cs with
  | nil => exact .nil
  | cons c cs ih =>
    simp only [List.all_cons, Bool.and_eq_true, decide_eq_true_eq] at plain
    obtain ⟨⟨quote, backslash, printable⟩, rest⟩ := plain
    exact .cons (.plain quote backslash printable) (ih rest)

/-! ## Structural characters -/

theorem isSpace_of_space {cs : List Char} (space : Space cs) : ∀ c ∈ cs, isSpace c = true := by
  intro c inside
  rcases space c inside with rfl | rfl | rfl | rfl <;> rfl

/-- White space between tokens is passed over. -/
theorem scans_space {cs : List Char} (space : ∀ c ∈ cs, isSpace c = true) :
    Scans .between cs .between [] := by
  induction cs with
  | nil => exact Runs.nil _
  | cons c cs ih =>
    obtain ⟨here, rest⟩ := List.forall_mem_cons.1 space
    exact Scans.cons (by simp [scanChar, startToken, here]) (ih rest)

section Marks

variable {c : Char} {cs : List Char} {token : Token}

theorem Mark.scans (mark : Mark c cs) (known : punctuation? c = some token) :
    Scans .between cs .between [token] := by
  obtain ⟨before, after⟩ := mark
  have blank := scans_space (isSpace_of_space before)
  have rest := (scans_punctuation known).append (scans_space (isSpace_of_space after))
  exact blank.append_silent rest

/-- A word ends at the next structural character, or at the white space in front of it. -/
theorem Mark.scans_word (mark : Mark c cs) (known : punctuation? c = some token) {done : List Char}
    {v : Value} (word : word? done.reverse = some v) :
    Scans (.word done) cs .between [.value v, token] := by
  obtain @⟨before, after, blank, blank'⟩ := mark
  have rest := scans_space (isSpace_of_space blank')
  cases before with
  | nil => exact (scans_endWord known word).append rest
  | cons d before =>
    obtain ⟨here, blank⟩ := List.forall_mem_cons.1 (isSpace_of_space blank)
    have ends : Scans (.word done) [d] .between [.value v] :=
      Scans.char (by simp [scanChar, here, word, startToken])
    have mark := (scans_space blank).append_silent ((scans_punctuation known).append rest)
    exact ends.append mark

end Marks

/-! ## Strings -/

theorem hexValue?_of_isHexDigit {d : Nat} {c : Char} (digit : IsHexDigit d c) : hexValue? c = some d := by
  have lower : ∀ d : Fin 16, hexValue? ("0123456789abcdef".toList[d]) = some d.val := by decide
  have upper : ∀ d : Fin 16, hexValue? ("0123456789ABCDEF".toList[d]) = some d.val := by decide
  rcases digit with found | found
  · obtain ⟨small, rfl⟩ := List.getElem?_eq_some_iff.1 found
    exact lower ⟨d, small⟩
  · obtain ⟨small, rfl⟩ := List.getElem?_eq_some_iff.1 found
    exact upper ⟨d, small⟩

theorem SpellsCode.scans {n : Nat} {cs done : List Char} {high : Option Nat} {state : Scan}
    (spelled : SpellsCode n cs) (close : closeHex? done high n = some state) :
    Scans (.hex done high 0 4) cs state [] := by
  obtain @⟨a, b, c, d, p, q, r, s, ha, hb, hc, hd⟩ := spelled
  have value : (((0 * 16 + a) * 16 + b) * 16 + c) * 16 + d = a * 0x1000 + b * 0x100 + c * 0x10 + d := by
    omega
  refine Scans.cons (by simp only [scanChar, hexValue?_of_isHexDigit ha, Option.bind_some]; rfl) ?_
  refine Scans.cons (by simp only [scanChar, hexValue?_of_isHexDigit hb, Option.bind_some]; rfl) ?_
  refine Scans.cons (by simp only [scanChar, hexValue?_of_isHexDigit hc, Option.bind_some]; rfl) ?_
  apply Scans.char
  simp only [scanChar, hexValue?_of_isHexDigit hd, Option.bind_some, value, close]
  rfl

/-- No character is half of a pair. -/
theorem lt_or_le_toNat (c : Char) : c.toNat < 0xD800 ∨ 0xE000 ≤ c.toNat := by
  have valid : c.toNat.isValidChar := c.valid
  simp only [Nat.isValidChar] at valid
  omega

/-- However a character is written, it is read as itself. -/
theorem SpellsChar.scans {c : Char} {cs : List Char} (spelled : SpellsChar c cs) (done : List Char) :
    Scans (.text done) cs (.text (c :: done)) [] := by
  have opened : ∀ done, scanChar (.text done) '\\' = some (.escape done, []) := by simp [scanChar]
  have marked : ∀ done, scanChar (.escape done) 'u' = some (.hex done none 0 4, []) := by simp [scanChar]
  cases spelled with
  | plain quote backslash printable =>
    apply Scans.char
    simp [scanChar, quote, backslash, Nat.not_lt.2 printable]
  | short listed =>
    have known : ∀ escape ∈ shortEscapes, shortEscape? escape.1 = some escape.2 := by decide
    exact scans_shortEscape (known _ listed)
  | code spelled =>
    refine Scans.cons (opened done) (Scans.cons (marked done) (spelled.scans ?_))
    have whole := lt_or_le_toNat c
    rw [closeHex?, if_neg (by omega), if_neg (by omega), Char.ofNat_toNat]
  | @pair high low cs ds highLeast highMost lowLeast lowMost value first second =>
    have half : closeHex? done none high = some (.lowEscape done high) := by
      simp [closeHex?, highLeast, highMost]
    have both : closeHex? done (some high) low = some (.text (c :: done)) := by
      simp only [closeHex?, lowLeast, lowMost, and_self, if_true, ← value, Char.ofNat_toNat]
    have escape : scanChar (.lowEscape done high) '\\' = some (.lowMark done high, []) := by simp [scanChar]
    have mark : scanChar (.lowMark done high) 'u' = some (.hex done (some high) 0 4, []) := by
      simp [scanChar]
    have front := Scans.cons (opened done) (Scans.cons (marked done) (first.scans half))
    exact front.append_silent (Scans.cons escape (Scans.cons mark (second.scans both)))

theorem SpellsChars.scans {cs ds : List Char} (spelled : SpellsChars cs ds) (done : List Char) :
    Scans (.text done) ds (.text (cs.reverse ++ done)) [] := by
  induction spelled generalizing done with
  | nil => exact Runs.nil _
  | @cons c _ _ _ first _ ih => simpa using (first.scans done).append_silent (ih (c :: done))

theorem SpellsString.scans {s : String} {cs : List Char} (spelled : SpellsString s cs) :
    Scans .between cs .between [.text s] := by
  obtain ⟨inside⟩ := spelled
  have opened : scanChar .between '"' = some (.text [], []) := by
    simp [scanChar, startToken, isSpace]
  refine Scans.cons opened ((inside.scans []).append_silent (Scans.char ?_))
  simp [scanChar]

/-! ## Objects -/

/-- A whole number is not too long to be read. -/
def Short : Value → Prop
  | .int i => (digits i.natAbs).length ≤ maxWholeDigits
  | _ => True

/-- A value is one token, when a structural character follows it. -/
theorem SpellsValue.scans {v : Value} {cs mark : List Char} {c : Char} {token : Token}
    (spelled : SpellsValue v cs) (short : Short v) (marked : Mark c mark)
    (known : punctuation? c = some token) : Scans .between (cs ++ mark) .between [tokenOf v, token] := by
  have number : ∀ {v : Value} {cs : List Char}, (∀ c ∈ cs, c = '-' ∨ c.isDigit = true) → cs ≠ [] →
      number? cs = some v → Scans .between (cs ++ mark) .between [.value v, token] := by
    intro v cs plain some read
    have word := (word?_eq_number? plain).trans read
    exact (scans_number plain some).append_silent (marked.scans_word known (by simpa using word))
  cases spelled with
  | text string => exact string.scans.append (marked.scans known)
  | whole n =>
    have plain : ∀ c ∈ digits n, c = '-' ∨ c.isDigit = true :=
      fun _ digit => .inr (isDigit_of_mem_digits digit)
    exact number plain (List.ne_nil_of_length_pos (length_digits_pos n))
      (number?_numeralChars (i := n) short)
  | negative n =>
    have plain : ∀ c ∈ '-' :: digits n, c = '-' ∨ c.isDigit = true := by
      intro c member
      rcases List.mem_cons.1 member with sign | digit
      · exact .inl sign
      · exact .inr (isDigit_of_mem_digits digit)
    exact number plain (by simp) (number?_minus_digits (by simpa [Short] using short))

/-- A value that was spelled is written, whatever follows it. -/
theorem SpellsValue.written {v : Value} {cs : List Char} (spelled : SpellsValue v cs) (short : Short v) :
    Written cs v := by
  intro c token known
  exact spelled.scans short (mark_bare c) known

theorem SpellsMember.scans {m : String × Value} {cs mark : List Char} {c : Char} {token : Token}
    (spelled : SpellsMember m cs) (short : Short m.2) (marked : Mark c mark)
    (known : punctuation? c = some token) :
    ∃ member : WrittenMember, member.read = m ∧
      Scans .between (cs ++ mark) .between (member.tokens ++ [token]) := by
  obtain ⟨name, colon, value⟩ := spelled
  refine ⟨⟨_, _, _, value.written short⟩, rfl, ?_⟩
  have front := name.scans.append (colon.scans rfl)
  simpa [WrittenMember.tokens] using front.append (value.scans short marked known)

/-- Members are read in their order, up to the closing brace. -/
theorem SpellsMembers.scans {ms : List (String × Value)} {cs closing : List Char}
    (spelled : SpellsMembers ms cs) (short : ∀ m ∈ ms, Short m.2) (marked : Mark '\x7d' closing) :
    ∃ (first : WrittenMember) (rest : List WrittenMember), (first :: rest).map WrittenMember.read = ms ∧
      Scans .between (cs ++ closing) .between (tailTokens (first :: rest)) := by
  induction spelled with
  | last only =>
    obtain ⟨member, rfl, scans⟩ := only.scans (short _ (by simp)) marked rfl
    exact ⟨member, [], rfl, scans⟩
  | more here comma _ ih =>
    obtain ⟨short, shorts⟩ := List.forall_mem_cons.1 short
    obtain ⟨member, rfl, scans⟩ := here.scans short comma rfl
    obtain ⟨next, rest, rfl, more⟩ := ih shorts
    refine ⟨member, next :: rest, rfl, ?_⟩
    simpa [tailTokens] using scans.append more

/-- However an object is spelled, it is read as its members. -/
theorem SpellsObject.read?_eq {s : String} {ms : List (String × Value)} (spelled : SpellsObject ms s.toList)
    (short : ∀ m ∈ ms, Short m.2) : read? s = some (.object ms) := by
  have object := @read?_of_scans s
  generalize s.toList = text at spelled object
  cases spelled with
  | empty opening closing => exact @object [] ((opening.scans rfl).append (closing.scans rfl))
  | members opening members closing =>
    obtain ⟨first, rest, rfl, scans⟩ := members.scans short closing
    rw [List.append_assoc] at object
    exact object ((opening.scans rfl).append scans)

end Checkin.Json

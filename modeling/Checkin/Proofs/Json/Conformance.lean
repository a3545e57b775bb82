import Checkin.Json.Writer
import Checkin.Proofs.Json.Standard
import Checkin.Proofs.Text.Digits

/-!
# What is written is standard JSON

The reader of standard JSON reads every string, every whole number and every object of these that was written,
and gives what they were written for. No white space is written outside of strings.
-/

namespace Checkin.Json.Standard

/-! ## What readers give -/

/-- A reader gave a value and left some characters. -/
def Gives {α : Type} {bound : Nat} (result : Option (Read α bound)) (value : α) (rest : List Char) : Prop :=
  result.map (fun r => (r.value, r.rest)) = some (value, rest)

theorem Gives.eq_some {α : Type} {bound : Nat} {result : Option (Read α bound)} {value : α}
    {rest : List Char} (gives : Gives result value rest) : ∃ within, result = some ⟨value, rest, within⟩ := by
  obtain ⟨⟨value', rest', within⟩, rfl, same⟩ := Option.map_eq_some_iff.1 gives
  cases same
  exact ⟨within, rfl⟩

variable {cs rest after : List Char} {c mark : Char} {s : String} {units : List Nat}

theorem skip_of_not_space (visible : isSpace c = false) : skip (c :: cs) = c :: cs := by
  simp [skip, visible]

@[simp] theorem skip_nil : skip [] = [] := rfl

theorem gives_expect (mark : Char) (cs : List Char) (visible : isSpace mark = false) :
    Gives (expect mark (mark :: cs)) () (skip cs) := by
  unfold expect
  split
  · next found =>
    rw [skip_of_not_space visible] at found
    cases found
  · next found =>
    rw [skip_of_not_space visible] at found
    cases found
    rw [if_pos rfl]
    rfl

theorem expect_eq_none (visible : isSpace c = false) (other : c ≠ mark) : expect mark (c :: cs) = none := by
  unfold expect
  split
  · rfl
  · next found =>
    rw [skip_of_not_space visible] at found
    cases found
    exact if_neg other

/-! ## Strings that were written -/

theorem hexadecimal?_hexDigit : ∀ n < 16, hexadecimal? (Text.hexDigit n) = some n := by decide

theorem hexDigits_of_lt : ∀ n < 32, Text.hexDigits 4 n =
    ['0', '0', Text.hexDigit (n / 16), Text.hexDigit (n % 16)] := by decide

/-- A character is written behind a backslash, by its number, or as it is. -/
theorem escaped_cases (c : Char) :
    (∃ e, escaped c = ['\\', e] ∧ shortEscape? e = some c.toNat) ∨
    (c.toNat < 32 ∧ escaped c = '\\' :: 'u' :: Text.hexDigits 4 c.toNat) ∨
    (escaped c = [c] ∧ c ≠ '"' ∧ c ≠ '\\' ∧ ¬c.toNat < 32) := by
  unfold escaped
  split_ifs with quote backslash feed carriage tab back form control
  · exact .inl ⟨'"', rfl, by rw [quote]; rfl⟩
  · exact .inl ⟨'\\', rfl, by rw [backslash]; rfl⟩
  · exact .inl ⟨'n', rfl, by rw [feed]; rfl⟩
  · exact .inl ⟨'r', rfl, by rw [carriage]; rfl⟩
  · exact .inl ⟨'t', rfl, by rw [tab]; rfl⟩
  · exact .inl ⟨'b', rfl, by rw [back]; rfl⟩
  · exact .inl ⟨'f', rfl, by rw [form]; rfl⟩
  · exact .inr (.inl ⟨control, rfl⟩)
  · exact .inr (.inr ⟨rfl, quote, backslash, control⟩)

/-- An escaped character is read as its code point. -/
theorem gives_units?_escaped (c : Char) (reads : Gives (units? rest) units after) :
    Gives (units? (escaped c ++ rest)) (c.toNat :: units) after := by
  obtain ⟨within, read⟩ := reads.eq_some
  unfold Gives
  rcases escaped_cases c with ⟨e, short, point⟩ | ⟨control, long⟩ | ⟨plain, notQuote, notBackslash, visible⟩
  · have notLong : e ≠ 'u' := by
      rintro rfl
      cases point
    rw [short]
    simp [units?, notLong, point, read, Read.since]
  · have high := hexadecimal?_hexDigit (c.toNat / 16) (by omega)
    have low := hexadecimal?_hexDigit (c.toNat % 16) (by omega)
    have zero : hexadecimal? '0' = some 0 := by decide
    rw [long, hexDigits_of_lt _ control]
    simp [units?, high, low, zero, read, Read.since, Nat.div_add_mod']
  · rw [plain]
    simp [units?, notBackslash, visible, read, Read.since]

/-- No character is half of a pair, so none is joined with another. -/
theorem joined_codes (cs : List Char) : joined (cs.map Char.toNat) = cs.map Char.toNat := by
  induction cs with
  | nil => rfl
  | cons c cs ih =>
    cases cs with
    | nil => rfl
    | cons next cs =>
      have whole : ¬(0xd800 ≤ c.toNat ∧ c.toNat < 0xdc00) := by
        have valid : c.toNat < 0xd800 ∨ 0xdfff < c.toNat ∧ c.toNat < 0x110000 := c.valid
        omega
      simp only [List.map_cons, joined] at ih ⊢
      rw [if_neg (fun pair => whole ⟨pair.1, pair.2.1⟩), ih]

/-- A text that was written is read as its code points. -/
theorem gives_string? (s : String) (rest : List Char) :
    Gives (string? (stringChars s ++ rest)) (codes s) rest := by
  have body : ∀ cs : List Char,
      Gives (units? (cs.flatMap escaped ++ '"' :: rest)) (cs.map Char.toNat) rest := by
    intro cs
    induction cs with
    | nil =>
      show Gives (units? ('"' :: rest)) [] rest
      simp [Gives, units?]
    | cons c cs ih =>
      rw [List.flatMap_cons, List.append_assoc]
      exact gives_units?_escaped c ih
  obtain ⟨within, read⟩ := (body s.toList).eq_some
  have chars : stringChars s ++ rest = '"' :: (s.toList.flatMap escaped ++ '"' :: rest) := by
    simp [stringChars]
  rw [chars]
  simp [Gives, string?, read, Read.since, joined_codes, codes]

/-! ## Numerals that were written -/

/-- What comes after a numeral does not belong to it. -/
def EndsNumeral (rest : List Char) : Prop :=
  ∀ c cs, rest = c :: cs → c.isDigit = false ∧ c ≠ '.' ∧ c ≠ 'e' ∧ c ≠ 'E'

theorem gives_digits? {d : Char} {ds : List Char} (all : ∀ e ∈ d :: ds, e.isDigit = true)
    (ends : EndsNumeral rest) : Gives (digits? (d :: ds ++ rest)) (d :: ds) rest := by
  have noMore : rest.takeWhile Char.isDigit = [] ∧ rest.dropWhile Char.isDigit = rest := by
    cases rest with
    | nil => exact ⟨rfl, rfl⟩
    | cons c cs => simp [(ends c cs rfl).1]
  have first : d.isDigit = true := all d List.mem_cons_self
  have later : ∀ e ∈ ds, e.isDigit = true := fun e member => all e (List.mem_cons_of_mem d member)
  simp [Gives, digits?, first, List.takeWhile_append_of_pos later, List.dropWhile_append_of_pos later,
    noMore]

/-- The digits of a number are read as far as they go. -/
theorem gives_whole? (n : Nat) (ends : EndsNumeral rest) :
    Gives (whole? (Text.digits n ++ rest)) (Text.digits n) rest := by
  rcases Nat.eq_zero_or_pos n with rfl | pos
  · have zero : Text.digits 0 = ['0'] := Text.digits_of_lt (by decide)
    rw [zero]
    simp [Gives, whole?]
  · have notZero := Text.head?_digits_ne_zero pos
    obtain ⟨d, ds, digits⟩ := List.exists_cons_of_length_pos (Text.length_digits_pos n)
    have all : ∀ e ∈ d :: ds, e.isDigit = true := by
      rw [← digits]
      exact fun _ => Text.isDigit_of_mem_digits
    rw [digits] at notZero ⊢
    have other : d ≠ '0' := by simpa using notZero
    have reads := gives_digits? all ends
    simpa [whole?, other] using reads

theorem gives_fraction?_none (ends : EndsNumeral rest) : Gives (fraction? rest) none rest := by
  unfold fraction?
  split
  · next cs => exact absurd rfl (ends _ _ rfl).2.1
  · rfl

theorem gives_exponent?_none (ends : EndsNumeral rest) : Gives (exponent? rest) none rest := by
  unfold exponent?
  split
  · next e cs =>
    obtain ⟨-, -, lower, upper⟩ := ends _ _ rfl
    rw [if_neg (by simp [lower, upper])]
    rfl
  · rfl

theorem gives_unsigned? (negative : Bool) (n : Nat) (ends : EndsNumeral rest) :
    Gives (unsigned? negative (Text.digits n ++ rest)) ⟨negative, Text.digits n, none, none⟩ rest := by
  obtain ⟨_, whole⟩ := (gives_whole? n ends).eq_some
  obtain ⟨_, fraction⟩ := (gives_fraction?_none ends).eq_some
  obtain ⟨_, exponent⟩ := (gives_exponent?_none ends).eq_some
  simp [Gives, unsigned?, whole, fraction, exponent, Read.since]

/-- The numeral of a whole number. -/
def numeralOf (i : Int) : Numeral :=
  ⟨decide (i < 0), Text.digits i.natAbs, none, none⟩

theorem gives_number? (i : Int) (ends : EndsNumeral rest) :
    Gives (number? (Text.numeralChars i ++ rest)) (numeralOf i) rest := by
  cases i with
  | ofNat n =>
    have reads := gives_unsigned? false n ends
    obtain ⟨d, ds, digits⟩ := List.exists_cons_of_length_pos (Text.length_digits_pos n)
    have notMinus : d ≠ '-' := by
      rintro rfl
      have digit : ('-').isDigit = true := Text.isDigit_of_mem_digits (n := n) (by rw [digits]; simp)
      cases digit
    have numeral : numeralOf (.ofNat n) = ⟨false, Text.digits n, none, none⟩ := by
      simp [numeralOf]
    rw [numeral, Text.numeralChars]
    rw [digits] at reads ⊢
    simpa [number?, notMinus] using reads
  | negSucc n =>
    obtain ⟨_, read⟩ := (gives_unsigned? true (n + 1) ends).eq_some
    simp [Gives, Text.numeralChars, number?, read, Read.since, numeralOf, Int.negSucc_lt_zero]

/-- The numeral of a whole number stands for it. -/
theorem wholePart_numeralOf (i : Int) : (numeralOf i).wholePart = i := by
  have magnitude : ∀ n : Nat,
      (Text.digits n).foldl (fun value c => value * 10 + (c.toNat - '0'.toNat)) 0 = n := by
    have digit : ∀ d < 10, (Char.ofNat (48 + d)).toNat - '0'.toNat = d := by decide
    intro n
    induction n using Text.digits_induction with
    | digit n small =>
      rw [Text.digits_of_lt small, List.foldl_cons, List.foldl_nil, digit n small]
      omega
    | more n large ih =>
      rw [Text.digits_of_le large, List.foldl_append, ih]
      simp only [List.foldl_cons, List.foldl_nil, digit _ (Nat.mod_lt n (by decide))]
      omega
  simp only [Numeral.wholePart, numeralOf, magnitude]
  split
  · next negative =>
    have : i < 0 := of_decide_eq_true negative
    omega
  · next positive =>
    have : ¬i < 0 := fun negative => positive (decide_eq_true negative)
    omega

/-! ## White space -/

/-- Outside of the string literals of some characters, there is no white space. Nothing in them has a part in
what comes after them. -/
def Compact (cs : List Char) : Prop :=
  ∃ shown, (∀ rest, outside (cs ++ rest) = shown ++ outside rest) ∧ ∀ c ∈ shown, isSpace c = false

theorem Compact.append {cs ds : List Char} (first : Compact cs) (next : Compact ds) : Compact (cs ++ ds) := by
  obtain ⟨shown, passes, visible⟩ := first
  obtain ⟨shown', passes', visible'⟩ := next
  refine ⟨shown ++ shown', fun rest => by rw [List.append_assoc, passes, passes', List.append_assoc], ?_⟩
  intro c member
  rcases List.mem_append.1 member with member | member
  · exact visible c member
  · exact visible' c member

theorem compact_of_plain {cs : List Char} (plain : ∀ c ∈ cs, c ≠ '"' ∧ isSpace c = false) : Compact cs := by
  refine ⟨cs, fun rest => ?_, fun c member => (plain c member).2⟩
  induction cs with
  | nil => rfl
  | cons c cs ih =>
    have later := ih fun d member => plain d (List.mem_cons_of_mem c member)
    rw [List.cons_append, outside, if_neg (plain c List.mem_cons_self).1, later, List.cons_append]

/-- A structural character. -/
theorem compact_mark (notQuote : mark ≠ '"') (visible : isSpace mark = false) : Compact [mark] := by
  apply compact_of_plain
  intro c member
  rw [List.mem_singleton.1 member]
  exact ⟨notQuote, visible⟩

theorem afterQuote_escaped (c : Char) (rest : List Char) : afterQuote (escaped c ++ rest) = afterQuote rest := by
  have hexDigit : ∀ n < 16, Text.hexDigit n ≠ '\\' ∧ Text.hexDigit n ≠ '"' := by decide
  rcases escaped_cases c with ⟨e, short, point⟩ | ⟨control, long⟩ | ⟨plain, notQuote, notBackslash, visible⟩
  · rw [short]
    rfl
  · have high := hexDigit (c.toNat / 16) (by omega)
    have low := hexDigit (c.toNat % 16) (by omega)
    rw [long, hexDigits_of_lt _ control]
    simp [afterQuote, high, low]
  · rw [plain]
    simp [afterQuote, notQuote, notBackslash]

theorem compact_stringChars (s : String) : Compact (stringChars s) := by
  refine ⟨[], fun rest => ?_, fun _ member => by cases member⟩
  have body : ∀ cs : List Char, afterQuote (cs.flatMap escaped ++ '"' :: rest) = outside rest := by
    intro cs
    induction cs with
    | nil => rfl
    | cons c cs ih => rw [List.flatMap_cons, List.append_assoc, afterQuote_escaped, ih]
  have chars : stringChars s ++ rest = '"' :: (s.toList.flatMap escaped ++ '"' :: rest) := by
    simp [stringChars]
  rw [chars, outside, if_pos rfl, body, List.nil_append]

/-- No other value begins as a numeral does. -/
theorem isVisible_of_numeral (first : c = '-' ∨ c.isDigit = true) :
    isSpace c = false ∧ c ∉ ['t', 'f', 'n', '"', '[', '\x7b'] := by
  rcases first with rfl | digit
  · decide
  · obtain ⟨d, small, rfl⟩ := Text.exists_of_isDigit digit
    clear digit
    revert d
    decide

theorem compact_numeralChars (i : Int) : Compact (Text.numeralChars i) := by
  apply compact_of_plain
  intro c member
  obtain ⟨visible, other⟩ := isVisible_of_numeral (Text.mem_numeralChars member)
  refine ⟨?_, visible⟩
  rintro rfl
  simp at other

/-! ## Objects that were written -/

/-- What is written stands for a value, wherever a comma or a closing brace comes next, and has no white space
outside of strings. -/
structure StandsFor (chars : List Char) (element : Element) : Prop where
  compact : Compact chars
  visible : ∃ c cs, chars = c :: cs ∧ isSpace c = false
  reads : ∀ mark rest, mark = ',' ∨ mark = '\x7d' →
    Gives (value? (chars ++ mark :: rest)) element (mark :: rest)

theorem standsFor_stringChars (s : String) : StandsFor (stringChars s) (.string (codes s)) := by
  refine ⟨compact_stringChars s, ⟨'"', _, rfl, rfl⟩, fun mark rest _ => ?_⟩
  have chars : stringChars s ++ mark :: rest = '"' :: (s.toList.flatMap escaped ++ '"' :: mark :: rest) := by
    simp [stringChars]
  have reads := gives_string? s (mark :: rest)
  rw [chars] at reads ⊢
  obtain ⟨_, read⟩ := reads.eq_some
  simp [Gives, value?, read, Read.since]

theorem standsFor_numeralChars (i : Int) : StandsFor (Text.numeralChars i) (.number (numeralOf i)) := by
  obtain ⟨c, cs, chars, first⟩ := Text.exists_numeralChars_eq_cons i
  obtain ⟨visible, other⟩ := isVisible_of_numeral first
  refine ⟨compact_numeralChars i, ⟨c, cs, chars, visible⟩, fun mark rest ends => ?_⟩
  have ends' : EndsNumeral (mark :: rest) := by
    rintro _ _ ⟨⟩
    rcases ends with rfl | rfl <;> decide
  have reads := gives_number? i ends'
  rw [chars] at reads ⊢
  rw [List.cons_append] at reads ⊢
  obtain ⟨_, read⟩ := reads.eq_some
  simp only [List.mem_cons, List.not_mem_nil, not_or, or_false] at other
  obtain ⟨notT, notF, notN, notQuote, notBracket, notBrace⟩ := other
  simp [Gives, value?, notT, notF, notN, notQuote, notBracket, notBrace, read, Read.since]

/-- A member of an object: its name, what is written for its value, and the value. -/
structure WrittenMember where
  name : String
  chars : List Char
  element : Element
  written : StandsFor chars element

namespace WrittenMember

/-- The member as it is written. -/
def source (m : WrittenMember) : String × List Char := (m.name, m.chars)

/-- The member as it is read. -/
def read (m : WrittenMember) : List Nat × Element := (codes m.name, m.element)

end WrittenMember

variable (m : WrittenMember) (members : List WrittenMember)

theorem gives_member? (rest : List Char) {mark : Char} (ends : mark = ',' ∨ mark = '\x7d') :
    Gives (member? (memberChars m.source ++ mark :: rest)) m.read (mark :: rest) := by
  obtain ⟨-, ⟨c, cs, chars, visible⟩, reads⟩ := m.written
  have source : memberChars m.source ++ mark :: rest =
      stringChars m.name ++ ':' :: (m.chars ++ mark :: rest) := by
    simp [memberChars, WrittenMember.source]
  have skipped : skip (m.chars ++ mark :: rest) = m.chars ++ mark :: rest := by
    rw [chars]
    exact skip_of_not_space visible
  have colon := gives_expect ':' (m.chars ++ mark :: rest) rfl
  rw [skipped] at colon
  rw [source]
  obtain ⟨_, name⟩ := (gives_string? m.name (':' :: (m.chars ++ mark :: rest))).eq_some
  obtain ⟨_, colon⟩ := colon.eq_some
  obtain ⟨_, value⟩ := (reads mark rest ends).eq_some
  simp [Gives, member?, name, colon, value, Read.since, WrittenMember.read]

/-- The members of an object as they are written. -/
def membersChars (members : List WrittenMember) : List Char :=
  List.intercalate [','] (members.map fun m => memberChars m.source)

theorem membersChars_cons_cons (next : WrittenMember) :
    membersChars (m :: next :: members) =
      memberChars m.source ++ ',' :: membersChars (next :: members) := by
  simp [membersChars, List.intercalate_cons_cons]

/-- Members begin with the quote of a name, so there is no white space to skip. -/
theorem exists_membersChars_eq_cons : ∃ cs, membersChars (m :: members) = '"' :: cs := by
  cases members with
  | nil => exact ⟨_, List.intercalate_singleton⟩
  | cons next members => exact ⟨_, membersChars_cons_cons m members next⟩

/-- Written members are read in their order. -/
theorem gives_members? (rest : List Char) :
    Gives (members? (membersChars (m :: members) ++ '\x7d' :: rest))
      ((m :: members).map WrittenMember.read) (skip rest) := by
  induction members generalizing m with
  | nil =>
    have single : membersChars [m] = memberChars m.source := List.intercalate_singleton
    rw [single]
    obtain ⟨_, member⟩ := (gives_member? m rest (.inr rfl)).eq_some
    obtain ⟨_, closing⟩ := (gives_expect '\x7d' rest rfl).eq_some
    have noComma : expect ',' ('\x7d' :: rest) = none := expect_eq_none rfl (by decide)
    rw [Gives, members?]
    simp [member, noComma, closing, Read.since]
  | cons next members ih =>
    obtain ⟨cs, more⟩ := exists_membersChars_eq_cons next members
    have skipped : skip (membersChars (next :: members) ++ '\x7d' :: rest) =
        membersChars (next :: members) ++ '\x7d' :: rest := by
      rw [more]
      exact skip_of_not_space rfl
    have comma := gives_expect ',' (membersChars (next :: members) ++ '\x7d' :: rest) rfl
    rw [skipped] at comma
    rw [membersChars_cons_cons, List.append_assoc, List.cons_append]
    obtain ⟨_, member⟩ :=
      (gives_member? m (membersChars (next :: members) ++ '\x7d' :: rest) (.inl rfl)).eq_some
    obtain ⟨_, comma⟩ := comma.eq_some
    obtain ⟨_, others⟩ := (ih next).eq_some
    rw [Gives, members?]
    simp [member, comma, others, Read.since]

theorem objectChars_eq : objectChars (members.map WrittenMember.source) =
    '\x7b' :: (membersChars members ++ ['\x7d']) := by
  simp [objectChars, membersChars, Function.comp_def]

/-- An object that was written is read as its members in their order. -/
theorem read?_objectChars :
    read? (String.ofList (objectChars ((m :: members).map WrittenMember.source))) =
      some (.object ((m :: members).map WrittenMember.read)) := by
  obtain ⟨cs, more⟩ := exists_membersChars_eq_cons m members
  have noEnd : expect '\x7d' (membersChars (m :: members) ++ ['\x7d']) = none := by
    rw [more]
    exact expect_eq_none rfl (by decide)
  have visible : skip (membersChars (m :: members) ++ ['\x7d']) = membersChars (m :: members) ++ ['\x7d'] := by
    rw [more]
    exact skip_of_not_space rfl
  have read := gives_members? m members []
  rw [← visible] at read
  obtain ⟨_, read⟩ := read.eq_some
  have object : Gives (value? ('\x7b' :: (membersChars (m :: members) ++ ['\x7d'])))
      (.object ((m :: members).map WrittenMember.read)) [] := by
    simp [Gives, value?, noEnd, read, Read.since]
  have start : skip ('\x7b' :: (membersChars (m :: members) ++ ['\x7d'])) =
      '\x7b' :: (membersChars (m :: members) ++ ['\x7d']) := skip_of_not_space rfl
  rw [← start] at object
  obtain ⟨_, object⟩ := object.eq_some
  rw [read?, String.toList_ofList, objectChars_eq, object]
  rfl

theorem compact_membersChars : Compact (membersChars (m :: members)) := by
  have member (m : WrittenMember) : Compact (memberChars m.source) :=
    (compact_stringChars m.name).append
      ((compact_mark (by decide) rfl).append m.written.compact)
  induction members generalizing m with
  | nil =>
    have single : membersChars [m] = memberChars m.source := List.intercalate_singleton
    rw [single]
    exact member m
  | cons next members ih =>
    rw [membersChars_cons_cons]
    exact (member m).append ((compact_mark (by decide) rfl).append (ih next))

/-- An object is written without white space outside of strings. -/
theorem isSpace_of_mem_outside_objectChars
    (inside : c ∈ outside (objectChars ((m :: members).map WrittenMember.source))) : isSpace c = false := by
  have opening : Compact ['\x7b'] := compact_mark (by decide) rfl
  have closing : Compact ['\x7d'] := compact_mark (by decide) rfl
  obtain ⟨shown, passes, visible⟩ := opening.append ((compact_membersChars m members).append closing)
  have whole := passes []
  rw [List.append_nil, outside, List.append_nil] at whole
  rw [objectChars_eq] at inside
  exact visible c (whole ▸ inside)

end Checkin.Json.Standard

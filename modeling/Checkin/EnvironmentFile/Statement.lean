import Checkin.Text.CharacterClass

/-!
# Statements of environment files

An environment file is a sequence of statements, at most one a line except where a quoted value spans
several: a name, perhaps after the word `export`, and a value after an equals sign. A name without one
is noted and bound to nothing. A statement that cannot be read is skipped to the end of the line it
breaks off in.

Reading a statement always takes characters away (`length_resume_lt`), so that all statements of a text
can be read.
-/

namespace Checkin.EnvironmentFile

open Checkin.Text

/-- A name and the value it is bound to, if there is one. -/
structure Binding where
  name : String
  value : Option String
deriving DecidableEq, Repr

/-! ## Reading statements

Each reader takes the characters that are left. It gives what it read and what is left then, or, when
it cannot read on, the characters from there. -/

/-- What a reader gives. -/
abbrev Reading (α : Type) := Except (List Char) (α × List Char)

/-- Whether a character is blank and does not end a line. -/
def isInlineBlank (c : Char) : Bool :=
  isBlank c && c != '\n' && c != '\r'

/-- What follows blanks on the same line. -/
def skipInline (cs : List Char) : List Char :=
  cs.dropWhile isInlineBlank

/-- Whether a character ends no line. -/
def isInLine (c : Char) : Bool :=
  c != '\n' && c != '\r'

/-- What follows the rest of a line and its end. -/
def skipLine (cs : List Char) : List Char :=
  (cs.dropWhile isInLine).drop 1

/-- What follows the word `export` and blanks after it, if it is there. -/
def skipExport (cs : List Char) : List Char :=
  match cs with
  | 'e' :: 'x' :: 'p' :: 'o' :: 'r' :: 't' :: c :: rest => if isInlineBlank c then skipInline rest else cs
  | _ => cs

/-- Whether a character may stand in a name that is not quoted. -/
def isNameChar (c : Char) : Bool :=
  c != '=' && c != '#' && !isBlank c

/-- A name: between single quotes, or as it stands. -/
def readName (cs : List Char) : Reading String :=
  match cs with
  | '\'' :: inner =>
    match inner.takeWhile (· != '\''), inner.dropWhile (· != '\'') with
    | c :: name, _ :: rest => .ok (String.ofList (c :: name), rest)
    | _, _ => .error cs
  | _ =>
    match cs.takeWhile isNameChar with
    | [] => .error cs
    | c :: name => .ok (String.ofList (c :: name), cs.dropWhile isNameChar)

/-- The character that a backslash and a letter stand for between double quotes. -/
def escapedLetter? (c : Char) : Option Char :=
  if c = 'a' then some '\x07'
  else if c = 'b' then some '\x08'
  else if c = 'f' then some '\x0c'
  else if c = 'n' then some '\n'
  else if c = 'r' then some '\r'
  else if c = 't' then some '\t'
  else if c = 'v' then some '\x0b'
  else if c = '"' then some '"'
  else none

/-- The character that a backslash and another character stand for; `letters` says whether the escapes
with letters count, besides those of the backslash and the single quote. -/
def escaped? (letters : Bool) (c : Char) : Option Char :=
  if c = '\\' ∨ c = '\'' then some c else if letters then escapedLetter? c else none

/-- What a backslash and a character stand for: another character, or else themselves. -/
def unescaped (letters : Bool) (c : Char) : List Char :=
  match escaped? letters c with
  | some e => [e]
  | none => ['\\', c]

/-- The characters that a quoted value stands for, and what follows the quote that closes it. A backslash takes
the next character along, so a quote after it closes nothing. -/
def upToQuote? (quote : Char) : List Char → Option (List Char × List Char)
  | [] => none
  | '\\' :: c :: cs =>
    (upToQuote? quote cs).map fun (value, rest) => (unescaped (quote = '"') c ++ value, rest)
  | c :: cs =>
    if c = quote then some ([], cs)
    else (upToQuote? quote cs).map fun (value, rest) => (c :: value, rest)

/-- The value between a quote, which has been read, and the one that closes it. -/
def readQuoted (quote : Char) (cs : List Char) : Reading String :=
  match upToQuote? quote cs with
  | some (value, rest) => .ok (String.ofList value, rest)
  | none => .error (quote :: cs)

/-- The characters before the first comment that follows a blank. -/
def beforeComment : List Char → List Char
  | [] => []
  | c :: cs =>
    if isBlank c && (cs.dropWhile isBlank).head? == some '#' then [] else c :: beforeComment cs

/-- A value, with the blanks before it. -/
def readValue (cs : List Char) : Reading String :=
  match skipInline cs with
  | '\'' :: rest => readQuoted '\'' rest
  | '"' :: rest => readQuoted '"' rest
  | _ => .ok (String.ofList (strip (beforeComment (cs.takeWhile isInLine))), cs.dropWhile isInLine)

/-- What follows a comment, if there is one. -/
def skipComment (cs : List Char) : List Char :=
  match cs with
  | '#' :: rest => rest.dropWhile isInLine
  | _ => cs

/-- Reads the end of a line, with blanks and a comment before it. -/
def readLineEnd (cs : List Char) : Reading Unit :=
  match skipComment (skipInline cs) with
  | [] => .ok ((), [])
  | '\n' :: rest => .ok ((), rest)
  | rest => .error rest

/-- A binding of a name to what follows it. -/
def readBinding (cs : List Char) : Reading Binding :=
  (readName cs).bind fun (name, rest) =>
    match skipInline rest with
    | '=' :: rest => (readValue rest).map fun (value, rest) => (⟨name, some value⟩, rest)
    | rest => .ok (⟨name, none⟩, rest)

/-- A statement, or none where there is only a comment. -/
def readStatement (cs : List Char) : Reading (Option Binding) :=
  match skipExport cs with
  | '#' :: rest => (readLineEnd (rest.dropWhile isInLine)).map fun ((), rest) => (none, rest)
  | start =>
    (readBinding start).bind fun (binding, rest) =>
      (readLineEnd rest).map fun ((), rest) => (some binding, rest)

/-! ### Statements take characters away -/

/-- What is left after reading, whether or not it went well. -/
def left {α : Type} : Reading α → List Char
  | .ok (_, rest) => rest
  | .error rest => rest

/-- Reading well takes characters away, and breaking off leaves no more than there were. -/
def Advances {α : Type} (cs : List Char) : Reading α → Prop
  | .ok (_, rest) => rest.length < cs.length
  | .error rest => rest.length ≤ cs.length

theorem length_dropWhile_le (p : Char → Bool) (cs : List Char) :
    (cs.dropWhile p).length ≤ cs.length :=
  (List.dropWhile_sublist p).length_le

theorem length_skipInline_le (cs : List Char) : (skipInline cs).length ≤ cs.length :=
  length_dropWhile_le _ cs

theorem length_skipExport_le (cs : List Char) : (skipExport cs).length ≤ cs.length := by
  unfold skipExport
  split
  · next c rest =>
    have := length_skipInline_le rest
    split <;> simp only [List.length_cons] <;> omega
  · exact Nat.le_refl _

theorem length_skipLine_lt {cs : List Char} (h : cs ≠ []) : (skipLine cs).length < cs.length := by
  have := length_dropWhile_le isInLine cs
  have := List.length_pos_iff.2 h
  simp only [skipLine, List.length_drop]
  omega

theorem advances_readName (cs : List Char) : Advances cs (readName cs) := by
  unfold readName
  split
  · next inner =>
    split
    · next h =>
      have := length_dropWhile_le (· != '\'') inner
      simp only [h, List.length_cons] at this
      simp only [Advances, List.length_cons]
      omega
    · exact Nat.le_refl _
  · split
    · exact Nat.le_refl _
    · next h =>
      have := congrArg List.length (List.takeWhile_append_dropWhile (p := isNameChar) (l := cs))
      simp only [h, List.length_append, List.length_cons] at this
      simp only [Advances]
      omega

theorem length_upToQuote? {quote : Char} {cs value rest : List Char}
    (h : upToQuote? quote cs = some (value, rest)) : rest.length ≤ cs.length := by
  fun_induction upToQuote? quote cs generalizing value rest with
  | case1 => simp at h
  | case2 c cs ih =>
    obtain ⟨⟨_, _⟩, hread, hpair⟩ := Option.map_eq_some_iff.1 h
    have := ih hread
    simp only [Prod.mk.injEq] at hpair
    simp only [List.length_cons, ← hpair.2]
    omega
  | case3 cs => simp_all
  | case4 c cs _ _ ih =>
    obtain ⟨⟨_, _⟩, hread, hpair⟩ := Option.map_eq_some_iff.1 h
    have := ih hread
    simp only [Prod.mk.injEq] at hpair
    simp only [List.length_cons, ← hpair.2]
    omega

theorem length_left_readQuoted_le (quote : Char) (cs : List Char) :
    (left (readQuoted quote cs)).length ≤ (quote :: cs).length := by
  unfold readQuoted
  split
  · next value rest h =>
    have := length_upToQuote? h
    simp only [left, List.length_cons]
    omega
  · exact Nat.le_refl _

theorem length_left_readValue_le (cs : List Char) : (left (readValue cs)).length ≤ cs.length := by
  have h₁ := length_skipInline_le cs
  unfold readValue
  split
  · next rest h₂ => exact Nat.le_trans (length_left_readQuoted_le '\'' rest) (h₂ ▸ h₁)
  · next rest h₂ => exact Nat.le_trans (length_left_readQuoted_le '"' rest) (h₂ ▸ h₁)
  · exact length_dropWhile_le isInLine cs

theorem length_skipComment_le (cs : List Char) : (skipComment cs).length ≤ cs.length := by
  unfold skipComment
  split
  · next rest =>
    have := length_dropWhile_le isInLine rest
    simp
    omega
  · exact Nat.le_refl _

theorem length_left_readLineEnd_le (cs : List Char) :
    (left (readLineEnd cs)).length ≤ cs.length := by
  have h₁ := length_skipComment_le (skipInline cs)
  have h₂ := length_skipInline_le cs
  unfold readLineEnd
  split
  · exact Nat.zero_le _
  · next h =>
    simp only [h, List.length_cons] at h₁
    simp only [left]
    omega
  · exact Nat.le_trans h₁ h₂

theorem advances_readBinding (cs : List Char) : Advances cs (readBinding cs) := by
  have h₁ := advances_readName cs
  unfold readBinding
  cases h : readName cs with
  | error rest =>
    simp only [h, Advances] at h₁
    simpa only [Except.bind, Advances] using h₁
  | ok named =>
    obtain ⟨name, rest⟩ := named
    have h₂ := length_skipInline_le rest
    simp only [h, Advances] at h₁
    simp only [Except.bind]
    split
    · next rest' h₃ =>
      have h₄ := length_left_readValue_le rest'
      simp only [h₃, List.length_cons] at h₂
      cases h₅ : readValue rest' <;> simp only [h₅, left] at h₄ <;>
        simp only [Except.map, Advances] <;> omega
    · simp only [Advances]
      omega

theorem advances_readStatement (cs : List Char) : Advances cs (readStatement cs) := by
  have h₀ := length_skipExport_le cs
  unfold readStatement
  split
  · next rest h =>
    have h₁ := length_dropWhile_le isInLine rest
    have h₂ := length_left_readLineEnd_le (rest.dropWhile isInLine)
    simp only [h, List.length_cons] at h₀
    cases h₃ : readLineEnd (rest.dropWhile isInLine) <;> simp only [h₃, left] at h₂ <;>
      simp only [Except.map, Advances] <;> omega
  · next h =>
    have h₁ := advances_readBinding (skipExport cs)
    cases h₂ : readBinding (skipExport cs) with
    | error rest =>
      simp only [h₂, Advances] at h₁
      simp only [Except.bind, Advances]
      omega
    | ok bound =>
      obtain ⟨binding, rest⟩ := bound
      have h₃ := length_left_readLineEnd_le rest
      simp only [h₂, Advances] at h₁
      cases h₄ : readLineEnd rest <;> simp only [h₄, left] at h₃ <;>
        simp only [Except.bind, Except.map, h₄, Advances] <;> omega

/-! ### All statements -/

/-- Where the next statement starts; after one that could not be read it is the next line. -/
def resume {α : Type} : Reading α → List Char
  | .ok (_, rest) => rest
  | .error rest => skipLine rest

theorem length_resume_lt {α : Type} {cs : List Char} {r : Reading α} (h : Advances cs r)
    (hne : cs ≠ []) : (resume r).length < cs.length := by
  cases r with
  | ok read => exact h
  | error rest =>
    cases rest with
    | nil => exact List.length_pos_iff.2 hne
    | cons c rest => exact Nat.lt_of_lt_of_le (length_skipLine_lt (List.cons_ne_nil c rest)) h

/-- The bindings of a file, and the numbers of the lines at which a statement could not be read. `line`
is the number of the line that the first character belongs to. -/
def readStatements (line : Nat) (cs : List Char) : List Binding × List Nat :=
  let start := cs.dropWhile isBlank
  if _ : start = [] then ([], [])
  else
    let reading := readStatement start
    let rest := resume reading
    let (bindings, lines) := readStatements (line + (cs.count '\n' - rest.count '\n')) rest
    match reading with
    | .ok (binding, _) => (binding.toList ++ bindings, lines)
    | .error _ => (bindings, line :: lines)
termination_by cs.length
decreasing_by
  exact Nat.lt_of_lt_of_le (length_resume_lt (advances_readStatement _) ‹_›)
    (length_dropWhile_le isBlank cs)

end Checkin.EnvironmentFile

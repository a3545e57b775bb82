import Mathlib

/-!
# A reader of standard JSON

A reader that follows the grammar of the JSON standard and nothing else, as a measure for what is written. It
shares nothing with the reader of messages: it goes down into values by recursion, keeps every member of an
object in its place, and gives strings as code points and numbers as their digits.
-/

namespace Checkin.Json.Standard

/-- Something that was read, and the characters after it, of which there are fewer than a bound. -/
structure Read (α : Type) (bound : Nat) where
  value : α
  rest : List Char
  within : rest.length < bound

namespace Read

variable {α β : Type} {bound bound' : Nat}

/-- What was read further on is read from the start as well, perhaps as part of something else. -/
def since (r : Read α bound) (value : β) (le : bound ≤ bound') : Read β bound' :=
  ⟨value, r.rest, Nat.lt_of_lt_of_le r.within le⟩

end Read

/-! ## White space and structural characters -/

/-- The four characters that may stand between tokens. -/
def isSpace (c : Char) : Bool :=
  c = ' ' || c = '\t' || c = '\n' || c = '\r'

/-- The characters after leading white space. -/
def skip (cs : List Char) : List Char :=
  cs.dropWhile isSpace

theorem length_skip_le (cs : List Char) : (skip cs).length ≤ cs.length :=
  cs.dropWhile_suffix isSpace |>.length_le

/-- Reads a structural character with the white space around it. -/
def expect (mark : Char) (cs : List Char) : Option (Read Unit cs.length) :=
  match found : skip cs with
  | [] => none
  | c :: rest =>
    if c = mark then
      some ⟨(), skip rest, by
        have outer := length_skip_le cs
        have inner := length_skip_le rest
        rw [found, List.length_cons] at outer
        omega⟩
    else none

/-! ## Strings -/

/-- The value of a hexadecimal digit. -/
def hexadecimal? (c : Char) : Option Nat :=
  if '0' ≤ c ∧ c ≤ '9' then some (c.toNat - '0'.toNat)
  else if 'a' ≤ c ∧ c ≤ 'f' then some (c.toNat - 'a'.toNat + 10)
  else if 'A' ≤ c ∧ c ≤ 'F' then some (c.toNat - 'A'.toNat + 10)
  else none

/-- The code point after a backslash. -/
def shortEscape? : Char → Option Nat
  | '"' => some 0x22
  | '\\' => some 0x5c
  | '/' => some 0x2f
  | 'b' => some 0x08
  | 'f' => some 0x0c
  | 'n' => some 0x0a
  | 'r' => some 0x0d
  | 't' => some 0x09
  | _ => none

/-- Reads a string from after its opening quote to its closing one: the code points of the characters that
stand for themselves, and what escapes stand for, halves of pairs being left apart. -/
def units? (cs : List Char) : Option (Read (List Nat) cs.length) :=
  match cs with
  | [] => none
  | '"' :: cs => some ⟨[], cs, by simp⟩
  | '\\' :: 'u' :: a :: b :: c :: d :: cs => do
    let unit := (((← hexadecimal? a) * 16 + (← hexadecimal? b)) * 16 + (← hexadecimal? c)) * 16 +
      (← hexadecimal? d)
    let more ← units? cs
    some (more.since (unit :: more.value) (Nat.le_add_right _ 6))
  | '\\' :: c :: cs => do
    let point ← shortEscape? c
    let more ← units? cs
    some (more.since (point :: more.value) (Nat.le_add_right _ 2))
  | c :: cs =>
    if c = '\\' ∨ c.toNat < 0x20 then none
    else do
      let more ← units? cs
      some (more.since (c.toNat :: more.value) (by simp))

/-- Joins the two halves of each pair. -/
def joined : List Nat → List Nat
  | high :: low :: rest =>
    if 0xd800 ≤ high ∧ high < 0xdc00 ∧ 0xdc00 ≤ low ∧ low < 0xe000 then
      (0x10000 + (high - 0xd800) * 0x400 + (low - 0xdc00)) :: joined rest
    else high :: joined (low :: rest)
  | units => units

/-- Reads a string: its code points. -/
def string? (cs : List Char) : Option (Read (List Nat) cs.length) :=
  match cs with
  | '"' :: cs => do
    let units ← units? cs
    some (units.since (joined units.value) (by simp))
  | _ => none

example : (string? "\"\\ud83d\\ude00\"".toList).map Read.value = some [0x1f600] := by decide

/-! ## Numbers -/

/-- A number as it is written: its sign, and the digits of its parts. The exponent includes its sign. -/
structure Numeral where
  negative : Bool
  digits : List Char
  fraction : Option (List Char)
  exponent : Option (List Char)
deriving DecidableEq

theorem length_dropWhile_lt (p : Char → Bool) (c : Char) (cs : List Char) :
    (cs.dropWhile p).length < (c :: cs).length :=
  Nat.lt_succ_of_le (cs.dropWhile_suffix p).length_le

/-- Reads one digit or more. -/
def digits? (cs : List Char) : Option (Read (List Char) cs.length) :=
  match cs with
  | [] => none
  | c :: cs =>
    if c.isDigit then
      some ⟨c :: cs.takeWhile Char.isDigit, cs.dropWhile Char.isDigit, length_dropWhile_lt Char.isDigit c cs⟩
    else none

/-- Reads the digits before the point, of which a zero is the only one. -/
def whole? (cs : List Char) : Option (Read (List Char) cs.length) :=
  match cs with
  | '0' :: cs => some ⟨['0'], cs, by simp⟩
  | cs => digits? cs

/-- Reads a point and the digits after it, if there is a point. -/
def fraction? (cs : List Char) : Option (Read (Option (List Char)) (cs.length + 1)) :=
  match cs with
  | '.' :: cs => do
    let ds ← digits? cs
    some (ds.since (some ds.value) (by simp; omega))
  | cs => some ⟨none, cs, by simp⟩

/-- Reads an exponent, if there is one. -/
def exponent? (cs : List Char) : Option (Read (Option (List Char)) (cs.length + 1)) :=
  match cs with
  | e :: cs =>
    if e = 'e' ∨ e = 'E' then
      match cs with
      | sign :: cs =>
        if sign = '+' ∨ sign = '-' then do
          let ds ← digits? cs
          some (ds.since (some (sign :: ds.value)) (by simp; omega))
        else do
          let ds ← digits? (sign :: cs)
          some (ds.since (some ds.value) (by simp))
      | [] => none
    else some ⟨none, e :: cs, by simp⟩
  | [] => some ⟨none, [], by simp⟩

/-- Reads a number without a sign. -/
def unsigned? (negative : Bool) (cs : List Char) : Option (Read Numeral cs.length) := do
  let whole ← whole? cs
  let fraction ← fraction? whole.rest
  let exponent ← exponent? fraction.rest
  some (exponent.since ⟨negative, whole.value, fraction.value, exponent.value⟩ (by
    have := whole.within
    have := fraction.within
    omega))

/-- Reads a number. -/
def number? (cs : List Char) : Option (Read Numeral cs.length) :=
  match cs with
  | '-' :: cs => do
    let number ← unsigned? true cs
    some (number.since number.value (by simp))
  | cs => unsigned? false cs

/-- The number that a numeral without fraction and exponent stands for. -/
def Numeral.wholePart (n : Numeral) : Int :=
  let magnitude : Nat := n.digits.foldl (fun value c => value * 10 + (c.toNat - '0'.toNat)) 0
  if n.negative then -magnitude else magnitude

/-! ## Values -/

/-- A value. The members of an object are in their order, and no two are made one. -/
inductive Element
  | null
  | bool (b : Bool)
  | number (n : Numeral)
  | string (points : List Nat)
  | array (items : List Element)
  | object (members : List (List Nat × Element))

mutual

/-- Reads a value. -/
def value? (cs : List Char) : Option (Read Element cs.length) :=
  match cs with
  | 't' :: 'r' :: 'u' :: 'e' :: rest => some ⟨.bool true, rest, by simp; omega⟩
  | 'f' :: 'a' :: 'l' :: 's' :: 'e' :: rest => some ⟨.bool false, rest, by simp; omega⟩
  | 'n' :: 'u' :: 'l' :: 'l' :: rest => some ⟨.null, rest, by simp; omega⟩
  | '"' :: cs => do
    let points ← string? ('"' :: cs)
    some (points.since (.string points.value) (by simp))
  | '[' :: cs =>
    match expect ']' cs with
    | some closing => some (closing.since (.array []) (by simp))
    | none => do
      let items ← items? (skip cs)
      some (items.since (.array items.value) (by
        have := length_skip_le cs
        simp only [List.length_cons]
        omega))
  | '\x7b' :: cs =>
    match expect '\x7d' cs with
    | some closing => some (closing.since (.object []) (by simp))
    | none => do
      let members ← members? (skip cs)
      some (members.since (.object members.value) (by
        have := length_skip_le cs
        simp only [List.length_cons]
        omega))
  | cs => do
    let number ← number? cs
    some (number.since (.number number.value) (Nat.le_refl _))
termination_by (cs.length, 0)
decreasing_by
  all_goals
    have := length_skip_le cs
    simp only [List.length_cons, Prod.lex_def]
    omega

/-- Reads the items of an array from the first one on, and the closing bracket. -/
def items? (cs : List Char) : Option (Read (List Element) cs.length) := do
  let item ← value? cs
  match expect ',' item.rest with
  | none => do
    let closing ← expect ']' item.rest
    some (closing.since [item.value] (Nat.le_of_lt item.within))
  | some comma => do
    let more ← items? comma.rest
    some (more.since (item.value :: more.value) (by
      have := comma.within
      have := item.within
      omega))
termination_by (cs.length, 1)
decreasing_by
  · simp [Prod.lex_def]
  · have := comma.within
    have := item.within
    simp only [Prod.lex_def]
    omega

/-- Reads a member of an object. -/
def member? (cs : List Char) : Option (Read (List Nat × Element) cs.length) := do
  let name ← string? cs
  let colon ← expect ':' name.rest
  let element ← value? colon.rest
  some (element.since (name.value, element.value) (by
    have := name.within
    have := colon.within
    omega))
termination_by (cs.length, 1)
decreasing_by
  have := name.within
  have := colon.within
  simp only [Prod.lex_def]
  omega

/-- Reads the members of an object from the first one on, and the closing brace. -/
def members? (cs : List Char) : Option (Read (List (List Nat × Element)) cs.length) := do
  let member ← member? cs
  match expect ',' member.rest with
  | none => do
    let closing ← expect '\x7d' member.rest
    some (closing.since [member.value] (Nat.le_of_lt member.within))
  | some comma => do
    let more ← members? comma.rest
    some (more.since (member.value :: more.value) (by
      have := comma.within
      have := member.within
      omega))
termination_by (cs.length, 2)
decreasing_by
  · simp [Prod.lex_def]
  · have := comma.within
    have := member.within
    simp only [Prod.lex_def]
    omega

end

/-- Reads a text that is one value with white space around it. -/
def read? (text : String) : Option Element := do
  let element ← value? (skip text.toList)
  if skip element.rest = [] then some element.value else none

example : read? "01" = none := by cbv

/-- The code points of a text, as the reader gives them. -/
def codes (s : String) : List Nat :=
  s.toList.map Char.toNat

/-! ## Outside of strings -/

mutual

/-- The characters outside of the string literals of a text. -/
def outside : List Char → List Char
  | [] => []
  | c :: cs => if c = '"' then afterQuote cs else c :: outside cs

/-- The characters outside of the string literals of a text that begins within one. -/
def afterQuote : List Char → List Char
  | [] => []
  | '\\' :: _ :: cs => afterQuote cs
  | c :: cs => if c = '"' then outside cs else afterQuote cs

end

end Checkin.Json.Standard

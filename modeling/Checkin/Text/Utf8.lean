/-!
# UTF-8

State files are sequences of octets and hold text in UTF-8. `decode` refuses an octet sequence at the
first octet that rules it out and says which octets are at fault: overlong forms, surrogates and code
points above U+10FFFF are ruled out by the octet after the lead, as the table of well-formed sequences
demands. `encode` writes a text.
-/

namespace Checkin.Text

/-- What rules an octet sequence out. -/
inductive Utf8Defect
  /-- The octet can start no character. -/
  | start
  /-- An octet inside a character is not one that may continue it. -/
  | continuation
  /-- The sequence ends inside a character. -/
  | truncated
deriving DecidableEq, Repr

/-- The octets at fault: those from position `first` to position `last`, `octet` being the first. -/
structure Utf8Fault where
  octet : UInt8
  first : Nat
  last : Nat
  defect : Utf8Defect
deriving DecidableEq, Repr

/-- A character whose octets have been read in part. -/
structure Partial where
  /-- The lead octet and its position. -/
  lead : UInt8
  position : Nat
  /-- The bits of the code point read so far. -/
  bits : Nat
  /-- How many octets are still to come, less one. -/
  more : Nat
  /-- The range in which the next octet has to lie. -/
  low : UInt8
  high : UInt8
deriving DecidableEq, Repr

/-- What a lead octet of a character of two or more octets promises. -/
def Partial.ofLead? (lead : UInt8) (position : Nat) : Option Partial :=
  let n := lead.toNat
  if 0xC2 ≤ n ∧ n ≤ 0xDF then some ⟨lead, position, n - 0xC0, 0, 0x80, 0xBF⟩
  else if n = 0xE0 then some ⟨lead, position, 0, 1, 0xA0, 0xBF⟩
  else if n = 0xED then some ⟨lead, position, 0xD, 1, 0x80, 0x9F⟩
  else if 0xE1 ≤ n ∧ n ≤ 0xEF then some ⟨lead, position, n - 0xE0, 1, 0x80, 0xBF⟩
  else if n = 0xF0 then some ⟨lead, position, 0, 2, 0x90, 0xBF⟩
  else if 0xF1 ≤ n ∧ n ≤ 0xF3 then some ⟨lead, position, n - 0xF0, 2, 0x80, 0xBF⟩
  else if n = 0xF4 then some ⟨lead, position, 4, 2, 0x80, 0x8F⟩
  else none

/-- The fault of a character that breaks off before position `position`. -/
def Partial.fault (p : Partial) (position : Nat) (defect : Utf8Defect) : Utf8Fault :=
  ⟨p.lead, p.position, position - 1, defect⟩

/-- Reads the octets from `position` on, inside the character `within` if one is open. -/
def decodeFrom (position : Nat) (within : Option Partial) : List UInt8 → Except Utf8Fault (List Char)
  | [] =>
    match within with
    | none => .ok []
    | some p => .error (p.fault position .truncated)
  | b :: bs =>
    match within with
    | none =>
      if b < 0x80 then (Char.ofNat b.toNat :: ·) <$> decodeFrom (position + 1) none bs
      else
        match Partial.ofLead? b position with
        | none => .error ⟨b, position, position, .start⟩
        | some p => decodeFrom (position + 1) (some p) bs
    | some p =>
      if p.low ≤ b ∧ b ≤ p.high then
        let bits := p.bits * 64 + (b.toNat - 0x80)
        match p.more with
        | 0 => (Char.ofNat bits :: ·) <$> decodeFrom (position + 1) none bs
        | more + 1 => decodeFrom (position + 1) (some { p with bits, more, low := 0x80, high := 0xBF }) bs
      else .error (p.fault position .continuation)

/-- The text that a sequence of octets holds. -/
def decode (octets : List UInt8) : Except Utf8Fault String :=
  String.ofList <$> decodeFrom 0 none octets

/-- The octets of a text. -/
def encode (s : String) : List UInt8 :=
  s.toList.flatMap String.utf8EncodeChar

/-- Every line break read from a file becomes a single line feed. -/
def unifyLineBreaks : List Char → List Char
  | '\r' :: '\n' :: cs => '\n' :: unifyLineBreaks cs
  | '\r' :: cs => '\n' :: unifyLineBreaks cs
  | c :: cs => c :: unifyLineBreaks cs
  | [] => []

end Checkin.Text

import Checkin.Binary64.Decimal
import Checkin.Text.Numeral

/-!
# JSON values and tokens

A JSON text is a sequence of tokens with white space between them: punctuation, strings, and words,
which are the numbers and the named constants. The scanner goes through the text character by
character; its state says what is open. Words are taken as long as possible, which refuses the same
texts as ending them early, because no value may follow a value.

Strings are strict: characters below U+0020 have to be escaped, and an escaped surrogate has to be one
half of a pair. Among the numbers are the names of the infinities and of no number.
-/

namespace Checkin.Json

/-- What a JSON text says. An object has its members as they are written, repeated names included. -/
inductive Value
  | null
  | bool (b : Bool)
  | int (n : Int)
  | float (x : Binary64)
  | text (s : String)
  | list (items : List Value)
  | object (members : List (String × Value))
deriving Repr

/-- A token; a word stands for its value. -/
inductive Token
  | openObject
  | closeObject
  | openList
  | closeList
  | colon
  | comma
  | text (s : String)
  | value (v : Value)
deriving Repr

/-- The most digits in the whole part of a number. -/
def maxWholeDigits : Nat := 4300

/-- The value of an ASCII digit. -/
def digit? (c : Char) : Option Nat :=
  if c.isDigit then some (c.toNat - 48) else none

/-- The value of a number: a whole number unless it has a fraction or a power of ten. -/
def number? (cs : List Char) : Option Value :=
  let (negative, unsigned) :=
    match cs with
    | '-' :: cs => (true, cs)
    | cs => (false, cs)
  let (value, count, rest) := Binary64.leadingDigits digit? 0 0 unsigned
  if count = 0 ∨ (count ≠ 1 ∧ unsigned.head? = some '0') then none
  else if maxWholeDigits < count then none
  else
    match rest with
    | [] => some (.int (if negative then -value else value))
    | '.' :: fraction =>
      match Binary64.leadingDigits digit? value 0 fraction with
      | (_, 0, _) => none
      | (value, places, rest) =>
        (Binary64.readExponent? digit? rest).map fun exponent =>
          .float (Binary64.ofDecimal negative value (exponent - places))
    | rest =>
      (Binary64.readExponent? digit? rest).map fun exponent =>
        .float (Binary64.ofDecimal negative value exponent)

/-- The value that a word stands for. -/
def word? (cs : List Char) : Option Value :=
  match String.ofList cs with
  | "null" => some .null
  | "true" => some (.bool true)
  | "false" => some (.bool false)
  | "NaN" => some (.float .nan)
  | "Infinity" => some (.float (.infinite false))
  | "-Infinity" => some (.float (.infinite true))
  | _ => number? cs

/-- What is open while a text is scanned. Characters read so far are held last first. -/
inductive Scan
  | between
  | word (done : List Char)
  | text (done : List Char)
  | escape (done : List Char)
  /-- Hexadecimal digits of an escape; `high` is the first half of a pair, if this is the second. -/
  | hex (done : List Char) (high : Option Nat) (value left : Nat)
  /-- The backslash of the second half of a pair. -/
  | lowEscape (done : List Char) (high : Nat)
  /-- The mark of the second half of a pair. -/
  | lowMark (done : List Char) (high : Nat)
deriving Repr

/-- Whether a character is JSON's white space. -/
def isSpace (c : Char) : Bool :=
  c == ' ' || c == '\t' || c == '\n' || c == '\r'

/-- The token that a punctuation character is. -/
def punctuation? (c : Char) : Option Token :=
  if c = '\x7b' then some .openObject
  else if c = '\x7d' then some .closeObject
  else if c = '[' then some .openList
  else if c = ']' then some .closeList
  else if c = ':' then some .colon
  else if c = ',' then some .comma
  else none

/-- The character that a short escape stands for. -/
def shortEscape? (c : Char) : Option Char :=
  if c = '"' ∨ c = '\\' ∨ c = '/' then some c
  else if c = 'b' then some '\x08'
  else if c = 'f' then some '\x0c'
  else if c = 'n' then some '\n'
  else if c = 'r' then some '\r'
  else if c = 't' then some '\t'
  else none

/-- The state after the last digit of an escape: a character, or half of a pair that goes on. -/
def closeHex? (done : List Char) (high : Option Nat) (value : Nat) : Option Scan :=
  let isHigh := 0xD800 ≤ value ∧ value < 0xDC00
  let isLow := 0xDC00 ≤ value ∧ value < 0xE000
  match high with
  | none =>
    if isHigh then some (.lowEscape done value)
    else if isLow then none
    else some (.text (Char.ofNat value :: done))
  | some high =>
    if isLow then
      some (.text (Char.ofNat (0x10000 + (high - 0xD800) * 0x400 + (value - 0xDC00)) :: done))
    else none

/-- The state and the tokens after a character between two tokens. -/
def startToken (c : Char) : Scan × List Token :=
  if isSpace c then (.between, [])
  else if c = '"' then (.text [], [])
  else
    match punctuation? c with
    | some token => (.between, [token])
    | none => (.word [c], [])

/-- The state and the tokens after one character. -/
def scanChar (state : Scan) (c : Char) : Option (Scan × List Token) :=
  match state with
  | .between => some (startToken c)
  | .word done =>
    if isSpace c || c == '"' || (punctuation? c).isSome then
      (word? done.reverse).map fun v =>
        let (state, tokens) := startToken c
        (state, .value v :: tokens)
    else some (.word (c :: done), [])
  | .text done =>
    if c = '"' then some (.between, [.text (String.ofList done.reverse)])
    else if c = '\\' then some (.escape done, [])
    else if c.toNat < 32 then none
    else some (.text (c :: done), [])
  | .escape done =>
    if c = 'u' then some (.hex done none 0 4, [])
    else (shortEscape? c).map fun c => (.text (c :: done), [])
  | .hex done high value left =>
    (Text.hexValue? c).bind fun d =>
      let value := value * 16 + d
      if left ≤ 1 then (closeHex? done high value).map (·, [])
      else some (.hex done high value (left - 1), [])
  | .lowEscape done high => if c = '\\' then some (.lowMark done high, []) else none
  | .lowMark done high => if c = 'u' then some (.hex done (some high) 0 4, []) else none

/-- The tokens of the rest of a text. -/
def scanFrom (state : Scan) : List Char → Option (List Token)
  | [] =>
    match state with
    | .between => some []
    | .word done => (word? done.reverse).map fun v => [.value v]
    | _ => none
  | c :: cs =>
    (scanChar state c).bind fun (state, tokens) => (tokens ++ ·) <$> scanFrom state cs

/-- The tokens of a text. -/
def scan (s : String) : Option (List Token) :=
  scanFrom .between s.toList

end Checkin.Json

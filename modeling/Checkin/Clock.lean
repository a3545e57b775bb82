import Checkin.Binary64
import Checkin.Text.Numeral

/-!
# Times

A clock tells seconds since the start of 1970, in universal time, as a double-precision number. Times
of last use are its whole milliseconds; log lines show it as a date and a time of day.
-/

namespace Checkin.Clock

open Checkin.Text

/-- A day of the calendar. -/
structure Date where
  year : Int
  month : Nat
  day : Nat
deriving DecidableEq, Repr

/-- The date that is a number of days after the first of January 1970. Years are counted from March,
so that a leap day is the last day of its year, and in spans of 400 years, which all have as many
days. -/
def Date.ofDays (days : Int) : Date :=
  let shifted := days + 719468
  let span := shifted / 146097
  let dayOfSpan := (shifted % 146097).toNat
  let yearOfSpan := (dayOfSpan - dayOfSpan / 1460 + dayOfSpan / 36524 - dayOfSpan / 146096) / 365
  let dayOfYear := dayOfSpan - (365 * yearOfSpan + yearOfSpan / 4 - yearOfSpan / 100)
  let monthFromMarch := (5 * dayOfYear + 2) / 153
  let day := dayOfYear - (153 * monthFromMarch + 2) / 5 + 1
  let month := if monthFromMarch < 10 then monthFromMarch + 3 else monthFromMarch - 9
  let year := span * 400 + yearOfSpan + (if month ≤ 2 then 1 else 0)
  ⟨year, month, day⟩

/-- A number with zeros in front, up to a width that a minus sign counts toward. -/
def padded (width : Nat) (n : Int) : List Char :=
  let sign := if n < 0 then ['-'] else []
  let ds := digits n.natAbs
  sign ++ List.replicate (width - sign.length - ds.length) '0' ++ ds

/-- The date and the time of day of a whole second. -/
def secondStamp (second : Int) : List Char :=
  let date := Date.ofDays (second / 86400)
  let time := second % 86400
  numeralChars date.year ++ '-' :: padded 2 date.month ++ '-' :: padded 2 date.day
    ++ ' ' :: padded 2 (time / 3600) ++ ':' :: padded 2 (time / 60 % 60) ++ ':' :: padded 2 (time % 60)

/-- The milliseconds that a time shows past its whole second. Before 1970 they count backwards. -/
def milliseconds (now : Binary64) : Int :=
  ((now.fraction.scale 1000).trunc?).getD 0

/-- A time as a log line shows it. -/
def stamp (now : Binary64) : String :=
  String.ofList (secondStamp (now.floor?.getD 0) ++ ',' :: padded 3 (milliseconds now))

end Checkin.Clock

import FormRules.Calendar.Date
import FormRules.Numeral

/-!
Moments: a day, a second of the day and nanoseconds. A leap second is second 59
of its minute with a thousand million nanoseconds or more.
-/

namespace FormRules.Calendar

/-- A day and a time of day, without a zone. -/
structure Moment where
  day : Int
  second : Nat
  nano : Nat
  deriving DecidableEq

namespace Moment

/-- Earlier days first, then earlier seconds, then fewer nanoseconds. -/
def compare (a b : Moment) : Ordering :=
  (Ord.compare a.day b.day).then
    ((Ord.compare a.second b.second).then (Ord.compare a.nano b.nano))

/-- The moment at a number of seconds since 1970, if its day is in range and its
nanoseconds are fewer than a second's or those of a leap second. -/
def ofUnix? (seconds : Int) (nano : Nat) : Option Moment :=
  let day := seconds / 86400
  let second := (seconds % 86400).toNat
  if firstDay ≤ day ∧ day ≤ lastDay ∧
      (nano < 1000000000 ∨ (nano < 2000000000 ∧ second % 60 = 59)) then
    some ⟨day, second, nano⟩
  else none

/-- The moment at a number of milliseconds since 1970. -/
def ofUnixMillis? (millis : Int) : Option Moment :=
  ofUnix? (millis / 1000) ((millis % 1000).toNat * 1000000)

/-- The same second on a clock that is behind by some seconds. -/
def minusSeconds (moment : Moment) (seconds : Int) : Moment :=
  let total := moment.day * 86400 + moment.second - seconds
  ⟨total / 86400, (total % 86400).toNat, moment.nano⟩

/-- A year as four digits, with a sign and as many digits as it needs when it is
outside 0 to 9999. -/
def writeYear (year : Int) : List Char :=
  if 0 ≤ year ∧ year ≤ 9999 then Numeral.writePadded 4 year.toNat
  else (if year < 0 then '-' else '+') :: Numeral.writePadded 4 year.natAbs

/-- The RFC 3339 text of a moment in UTC, with milliseconds. A leap second is
written as second 60. -/
def writeUtc (moment : Moment) : List Char :=
  let date := Date.ofDayNumber moment.day
  let leap := if moment.nano < 1000000000 then 0 else 1
  writeYear date.year ++ '-' :: Numeral.writePadded 2 date.month ++
    '-' :: Numeral.writePadded 2 date.day ++ 'T' :: Numeral.writePadded 2 (moment.second / 3600) ++
    ':' :: Numeral.writePadded 2 (moment.second / 60 % 60) ++
    ':' :: Numeral.writePadded 2 (moment.second % 60 + leap) ++
    '.' :: Numeral.writePadded 3 (moment.nano % 1000000000 / 1000000) ++ ['Z']

end Moment

end FormRules.Calendar

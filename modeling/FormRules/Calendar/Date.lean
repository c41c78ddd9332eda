/-!
Days of the proleptic Gregorian calendar. A day is a number, counted from
1970-01-01; year, month and day of the month are computed from it and back.
-/

namespace FormRules.Calendar

/-- Days from 0001-01-01 to the first of January of a year. -/
def daysBeforeYear (year : Int) : Int :=
  365 * (year - 1) + (year - 1) / 4 - (year - 1) / 100 + (year - 1) / 400

def isLeapYear (year : Int) : Bool :=
  year % 4 == 0 && (year % 100 != 0 || year % 400 == 0)

def monthLengths (year : Int) : List Nat :=
  [31, if isLeapYear year then 29 else 28, 31, 30, 31, 30, 31, 31, 30, 31, 30, 31]

/-- The number of 1970-01-01 when days are counted from 0001-01-01. -/
def epochDay : Int := 719162

/-- A day of the calendar by year, month and day of the month. -/
structure Date where
  year : Int
  month : Nat
  day : Nat
  deriving DecidableEq

namespace Date

def monthLength (year : Int) (month : Nat) : Nat :=
  (monthLengths year).getD (month - 1) 0

/-- Whether month and day exist. -/
def Valid (date : Date) : Prop :=
  1 ≤ date.month ∧ date.month ≤ 12 ∧ 1 ≤ date.day ∧
    date.day ≤ monthLength date.year date.month

instance (date : Date) : Decidable date.Valid := by
  unfold Valid
  infer_instance

/-- The number of a day. -/
def toDayNumber (date : Date) : Int :=
  let earlierMonths := (monthLengths date.year).take (date.month - 1)
  daysBeforeYear date.year + (earlierMonths.foldl Nat.add 0 : Nat) + (date.day - 1) - epochDay

/-- Month and day of the month for a day of the year, both counted from one. -/
def splitDayOfYear (month : Nat) (lengths : List Nat) (dayOfYear : Nat) : Nat × Nat :=
  match lengths with
  | [] => (month, dayOfYear + 1)
  | length :: rest =>
    if dayOfYear < length then (month, dayOfYear + 1)
    else splitDayOfYear (month + 1) rest (dayOfYear - length)

/-- The year of a day counted from 0001-01-01: an estimate by the mean length of a
year, which is off by one at most. -/
def yearOfDay (days : Int) : Int :=
  let guess := 400 * days / 146097 + 1
  if days < daysBeforeYear guess then guess - 1
  else if daysBeforeYear (guess + 1) ≤ days then guess + 1
  else guess

/-- The date of a day number. -/
def ofDayNumber (number : Int) : Date :=
  let days := number + epochDay
  let year := yearOfDay days
  let (month, day) := splitDayOfYear 1 (monthLengths year) (days - daysBeforeYear year).toNat
  ⟨year, month, day⟩

/-- The years that dates are computed for. -/
def inRange (date : Date) : Bool :=
  -262143 ≤ date.year && date.year ≤ 262142

end Date

/-- The first day number in range. -/
def firstDay : Int := Date.toDayNumber ⟨-262143, 1, 1⟩

/-- The last day number in range. -/
def lastDay : Int := Date.toDayNumber ⟨262142, 12, 31⟩

/-- The day of the week of a day number, counted from Monday as zero. -/
def weekday (number : Int) : Int := (number + 3) % 7

/-- Saturdays and Sundays. -/
def isWeekendDay (number : Int) : Bool := 5 ≤ weekday number

end FormRules.Calendar

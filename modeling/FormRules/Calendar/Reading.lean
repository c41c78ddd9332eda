import FormRules.Calendar.Moment
import FormRules.Unicode.Blank

/-!
Dates and moments as text. Four forms are read: an RFC 3339 timestamp with an
offset, a date and time joined by `T` with an optional fraction, a date and
time apart, and a date alone, which means its first second.
-/

namespace FormRules.Calendar

/-- Reads the beginning of a text, leaving the rest. -/
abbrev Scan (α : Type) := StateT (List Char) Option α

namespace Scan

/-- One given character. -/
def char (c : Char) : Scan Unit := fun chars =>
  match chars with
  | d :: rest => if d = c then some ((), rest) else none
  | [] => none

/-- At least `least` and at most `most` digits. -/
def digits (least most : Nat) : Scan Nat := fun chars =>
  let run := (chars.take most).takeWhile Char.isDigit
  if run.length < least then none
  else some (Nat.ofDigitChars 10 run 0, chars.drop run.length)

/-- All the digits there are, at least one. -/
def allDigits : Scan (List Char) := fun chars =>
  let run := chars.takeWhile Char.isDigit
  if run.isEmpty then none else some (run, chars.dropWhile Char.isDigit)

/-- Any white space. -/
def blanks : Scan Unit := fun chars => some ((), Unicode.trimStart chars)

/-- Runs a reader on a whole text. -/
def all? {α : Type} (scan : Scan α) (chars : List Char) : Option α :=
  match scan chars with
  | some (value, []) => some value
  | _ => none

end Scan

/-- A local moment and its offset from UTC in seconds. -/
structure ZonedMoment where
  localMoment : Moment
  offset : Int
  deriving DecidableEq

def ZonedMoment.utc (zoned : ZonedMoment) : Moment :=
  zoned.localMoment.minusSeconds zoned.offset

/-- The moment with given parts, if its date exists and is in range and its time
exists. Second 60 is a leap second. -/
def momentOfParts? (year : Int) (month day hour minute second nano : Nat) : Option Moment :=
  let date : Date := ⟨year, month, day⟩
  if date.Valid ∧ date.inRange ∧ hour < 24 ∧ minute < 60 ∧ second ≤ 60 then
    if second = 60 then
      some ⟨date.toDayNumber, hour * 3600 + minute * 60 + 59, 1000000000 + nano⟩
    else some ⟨date.toDayNumber, hour * 3600 + minute * 60 + second, nano⟩
  else none

/-- Digits after a point as nanoseconds: nine count, further ones are dropped. -/
def scanNanos : Scan Nat := do
  let run ← Scan.allDigits
  let nine := run.take 9
  return Nat.ofDigitChars 10 (nine ++ List.replicate (9 - nine.length) '0') 0

/-- A fraction of a second, if there is a point. -/
def scanFraction : Scan Nat := fun chars =>
  match chars with
  | '.' :: rest => scanNanos rest
  | _ => some (0, chars)

/-- An offset of hours and minutes: `Z`, or a sign, two digits, a colon and two
digits. The minus sign may be the typographic one. -/
def scanOffset : Scan Int := fun chars =>
  match chars with
  | [] => none
  | sign :: rest =>
    if sign = 'Z' ∨ sign = 'z' then some (0, rest)
    else if sign = '+' ∨ sign = '-' ∨ sign = '\u2212' then
      (do
        let hours ← Scan.digits 2 2
        Scan.char ':'
        let minutes ← Scan.digits 2 2
        if hours < 24 ∧ minutes < 60 then
          let seconds : Int := hours * 3600 + minutes * 60
          return if sign = '+' then seconds else -seconds
        else failure : Scan Int) rest
    else none

/-- The letter or space between date and time. -/
def scanSeparator : Scan Unit := fun chars =>
  match chars with
  | c :: rest => if c = 'T' ∨ c = 't' ∨ c = ' ' then some ((), rest) else none
  | [] => none

/-- An RFC 3339 timestamp, with fields of fixed width. -/
def scanTimestamp : Scan ZonedMoment := do
  let year ← Scan.digits 4 4
  Scan.char '-'
  let month ← Scan.digits 2 2
  Scan.char '-'
  let day ← Scan.digits 2 2
  scanSeparator
  let hour ← Scan.digits 2 2
  Scan.char ':'
  let minute ← Scan.digits 2 2
  Scan.char ':'
  let second ← Scan.digits 2 2
  let nano ← scanFraction
  let offset ← scanOffset
  let moment ← (momentOfParts? year month day hour minute second nano : Option Moment)
  return ⟨moment, offset⟩

/-- A field of one or two digits after any white space. -/
def scanField : Scan Nat := do
  Scan.blanks
  Scan.digits 1 2

/-- A year after any white space: up to four digits, or any number of digits after
a sign. -/
def scanYear : Scan Int := do
  Scan.blanks
  fun chars =>
    match chars with
    | '-' :: rest =>
      (Scan.allDigits rest).map fun (run, tail) => (-(Nat.ofDigitChars 10 run 0 : Int), tail)
    | '+' :: rest =>
      (Scan.allDigits rest).map fun (run, tail) => ((Nat.ofDigitChars 10 run 0 : Int), tail)
    | _ => (Scan.digits 1 4 chars).map fun (n, tail) => ((n : Int), tail)

def scanDate : Scan Date := do
  let year ← scanYear
  Scan.char '-'
  let month ← scanField
  Scan.char '-'
  let day ← scanField
  return ⟨year, month, day⟩

/-- Hours, minutes and seconds between colons. -/
def scanTime : Scan (Nat × Nat × Nat) := do
  let hour ← scanField
  Scan.char ':'
  let minute ← scanField
  Scan.char ':'
  let second ← scanField
  return (hour, minute, second)

/-- A date and a time joined by `T`, with an optional fraction. -/
def scanJoined : Scan Moment := do
  let date ← scanDate
  Scan.char 'T'
  let (hour, minute, second) ← scanTime
  let nano ← scanFraction
  momentOfParts? date.year date.month date.day hour minute second nano

/-- A date and a time with any white space between them. -/
def scanApart : Scan Moment := do
  let date ← scanDate
  Scan.blanks
  let (hour, minute, second) ← scanTime
  momentOfParts? date.year date.month date.day hour minute second 0

/-- A date alone. -/
def scanDay : Scan Moment := do
  let date ← scanDate
  momentOfParts? date.year date.month date.day 0 0 0 0

/-- Reads a timestamp with an offset. -/
def timestamp? (chars : List Char) : Option ZonedMoment :=
  Scan.all? scanTimestamp chars

/-- Reads a moment in any of the four forms, in UTC. -/
def moment? (chars : List Char) : Option Moment :=
  ((timestamp? chars).map ZonedMoment.utc).orElse fun _ =>
    (Scan.all? scanJoined chars).orElse fun _ =>
      (Scan.all? scanApart chars).orElse fun _ =>
        Scan.all? scanDay chars

end FormRules.Calendar

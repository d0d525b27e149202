/-!
Contract: instants as dates of the Gregorian calendar and times of day in UTC.

Owns:
- the date of a day counted from the epoch;
- the text of an instant with milliseconds, and the range of instants that have
  one.

Does not own: reading such a text.
-/

namespace Telemetry.Time

/-- A date of the Gregorian calendar. Year 0 is the year before year 1. -/
structure Date where
  year : Int
  month : Nat
  day : Nat
deriving DecidableEq, Repr

/-- The days of four hundred years, after which the calendar repeats. -/
def daysOfCycle : Int := 146097

/-- The date of a day counted from 1970-01-01. Years are counted from March, so
that the day a leap year adds is the last of its year. -/
def Date.ofDays (days : Int) : Date :=
  let shifted := days + 719468
  let cycle := shifted / daysOfCycle
  let dayOfCycle := (shifted % daysOfCycle).toNat
  let yearOfCycle :=
    (dayOfCycle - dayOfCycle / 1460 + dayOfCycle / 36524 - dayOfCycle / 146096) / 365
  let dayOfYear := dayOfCycle - (365 * yearOfCycle + yearOfCycle / 4 - yearOfCycle / 100)
  let monthFromMarch := (5 * dayOfYear + 2) / 153
  let day := dayOfYear - (153 * monthFromMarch + 2) / 5 + 1
  let month := if monthFromMarch < 10 then monthFromMarch + 3 else monthFromMarch - 9
  let year := cycle * 400 + yearOfCycle
  ⟨if month ≤ 2 then year + 1 else year, month, day⟩

def millisOfDay : Int := 86400000

/-- The instants that have a text. -/
def hasText (instant : Int) : Bool :=
  decide (-8334601228800000 ≤ instant) && decide (instant ≤ 8210266876799999)

/-- A number with zeros before it, at least `width` digits long. -/
def padded (width number : Nat) : List Char :=
  let digits := Nat.toDigits 10 number
  List.replicate (width - digits.length) '0' ++ digits

/-- Four digits; a year outside them has a sign. -/
def yearText (year : Int) : List Char :=
  if 0 ≤ year ∧ year ≤ 9999 then
    padded 4 year.toNat
  else if year < 0 then
    '-' :: padded 4 year.natAbs
  else
    '+' :: padded 4 year.natAbs

/-- The date and time of day in UTC, with milliseconds. -/
def instantText (instant : Int) : String :=
  let date := Date.ofDays (instant / millisOfDay)
  let millis := (instant % millisOfDay).toNat
  let hour := millis / 3600000
  let minute := millis / 60000 % 60
  let second := millis / 1000 % 60
  String.ofList (yearText date.year ++ ['-'] ++ padded 2 date.month ++ ['-'] ++
    padded 2 date.day ++ ['T'] ++ padded 2 hour ++ [':'] ++ padded 2 minute ++ [':'] ++
    padded 2 second ++ ['.'] ++ padded 3 (millis % 1000) ++ ['Z'])

/-- The text of an instant that has one. -/
def instantText? (instant : Int) : Option String :=
  if hasText instant then some (instantText instant) else none

example : instantText 1700000000123 = "2023-11-14T22:13:20.123Z" := by decide +kernel

example : instantText (-1) = "1969-12-31T23:59:59.999Z" := by decide +kernel

example : instantText (-62167219200001) = "-0001-12-31T23:59:59.999Z" := by decide +kernel

end Telemetry.Time

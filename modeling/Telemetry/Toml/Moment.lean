import Telemetry.Decimal.Digits
import Telemetry.Toml.Blank

/-!
Contract: dates and times of the TOML data format.

Owns: dates, times of day, and both together with an offset or not; each part is
in its range, and a day is one of its month.

Does not own: the instants that are meant.
-/

namespace Telemetry.Toml

/-- A number of so many decimal digits between two bounds. -/
def readField (count least greatest : Nat) : Reader Nat := fun characters =>
  let digits := characters.take count
  let value := Decimal.digitsValue digits
  if digits.length = count && digits.all Decimal.isDigit &&
      decide (least ≤ value) && decide (value ≤ greatest) then
    some (value, characters.drop count)
  else
    none

def readMark (mark : Char) : List Char → Option (List Char)
  | character :: rest => if character = mark then some rest else none
  | [] => none

def isLeapYear (year : Nat) : Bool :=
  year % 4 == 0 && (year % 100 != 0 || year % 400 == 0)

def daysOfMonth (year month : Nat) : Nat :=
  match month with
  | 2 => if isLeapYear year then 29 else 28
  | 4 | 6 | 9 | 11 => 30
  | _ => 31

def afterDate? (characters : List Char) : Option (List Char) := do
  let (year, rest) ← readField 4 0 9999 characters
  let rest ← readMark '-' rest
  let (month, rest) ← readField 2 1 12 rest
  let rest ← readMark '-' rest
  let (_, rest) ← readField 2 1 (daysOfMonth year month) rest
  some rest

/-- What follows the fraction of a second, if there is one. -/
def afterFraction (characters : List Char) : List Char :=
  match characters with
  | '.' :: rest =>
    if (rest.takeWhile Decimal.isDigit).isEmpty then
      characters
    else
      rest.dropWhile Decimal.isDigit
  | _ => characters

/-- What follows an hour and a minute. -/
def afterMinute? (characters : List Char) : Option (List Char) := do
  let (_, rest) ← readField 2 0 23 characters
  let rest ← readMark ':' rest
  let (_, rest) ← readField 2 0 59 rest
  some rest

/-- What follows a time of day, whose last minute may have a leap second. -/
def afterTime? (characters : List Char) : Option (List Char) := do
  let rest ← afterMinute? characters
  let rest ← readMark ':' rest
  let (_, rest) ← readField 2 0 60 rest
  some (afterFraction rest)

/-- What follows an offset, if there is one. -/
def afterOffset (characters : List Char) : List Char :=
  match characters with
  | 'Z' :: rest => rest
  | 'z' :: rest => rest
  | '+' :: rest => (afterMinute? rest).getD characters
  | '-' :: rest => (afterMinute? rest).getD characters
  | _ => characters

/-- What follows the time after a date, if there is one. -/
def afterDateTime (characters : List Char) : List Char :=
  match characters with
  | mark :: rest =>
    if mark = 'T' || mark = 't' || mark = ' ' then
      ((afterTime? rest).map afterOffset).getD characters
    else
      characters
  | [] => []

/-- What follows a date, a time or both. -/
def afterMoment? (characters : List Char) : Option (List Char) :=
  ((afterDate? characters).map afterDateTime).or (afterTime? characters)

/-- A date, a time or both, as it is written. -/
def readMoment : Reader String := fun characters =>
  (afterMoment? characters).map fun rest =>
    (String.ofList (characters.take (characters.length - rest.length)), rest)

end Telemetry.Toml

import ServerProbe.Text.Numeral

/-! Dates of the proleptic Gregorian calendar, and points in time.

A second that is a leap second is written as second 60; it is given as second 59
with a billion or more nanoseconds.
-/

set_option autoImplicit false

namespace ServerProbe

/-- A date with a time of day, without a time zone. -/
structure CivilTime where
  year : Int
  month : Nat
  day : Nat
  hour : Nat
  minute : Nat
  second : Nat
  nanosecond : Nat
  deriving DecidableEq

namespace CivilTime

def isLeapYear (year : Int) : Bool :=
  year % 4 == 0 && (year % 100 != 0 || year % 400 == 0)

def daysInMonth (year : Int) (month : Nat) : Nat :=
  match month with
  | 2 => if isLeapYear year then 29 else 28
  | 4 | 6 | 9 | 11 => 30
  | _ => 31

def firstYear : Int := -262143

def lastYear : Int := 262142

-- Whether a date and time exist. Nanoseconds from a billion on need second 59.
def exists? (time : CivilTime) : Bool :=
  firstYear ≤ time.year && time.year ≤ lastYear &&
    1 ≤ time.month && time.month ≤ 12 &&
    1 ≤ time.day && time.day ≤ daysInMonth time.year time.month &&
    time.hour < 24 && time.minute < 60 && time.second < 60 &&
    (time.nanosecond < 1000000000 || (time.second == 59 && time.nanosecond < 2000000000))

/-- The second as it is shown, 60 for a leap second. -/
def shownSecond (time : CivilTime) : Nat :=
  time.second + time.nanosecond / 1000000000

/-- Four digits for the years 0 to 9999, else a sign and at least four digits. -/
def yearText (year : Int) : String :=
  if 0 ≤ year ∧ year ≤ 9999 then Text.padded 4 year.toNat
  else (if year < 0 then "-" else "+") ++ Text.padded 4 year.natAbs

/-- The form `19980717T14:08:55`. -/
def compact (time : CivilTime) : String :=
  yearText time.year ++ Text.padded 2 time.month ++ Text.padded 2 time.day ++ "T" ++
    Text.padded 2 time.hour ++ ":" ++ Text.padded 2 time.minute ++ ":" ++
    Text.padded 2 time.shownSecond

/-- The fraction of a second with 0, 3, 6 or 9 digits, whichever are enough. -/
def fractionText (nanosecond : Nat) : String :=
  let nanos := nanosecond % 1000000000
  if nanos = 0 then ""
  else if nanos % 1000000 = 0 then "." ++ Text.padded 3 (nanos / 1000000)
  else if nanos % 1000 = 0 then "." ++ Text.padded 6 (nanos / 1000)
  else "." ++ Text.padded 9 nanos

/-- The form `1998-07-17T14:08:55.5Z`, for a time in UTC. -/
def utcText (time : CivilTime) : String :=
  yearText time.year ++ "-" ++ Text.padded 2 time.month ++ "-" ++ Text.padded 2 time.day ++ "T" ++
    Text.padded 2 time.hour ++ ":" ++ Text.padded 2 time.minute ++ ":" ++
    Text.padded 2 time.shownSecond ++ fractionText time.nanosecond ++ "Z"

end CivilTime

/-- A point in time: seconds since the start of 1970 in UTC, and nanoseconds. -/
structure Instant where
  seconds : Int
  nanosecond : Nat
  deriving DecidableEq

namespace Instant

def epoch : Instant := ⟨0, 0⟩

-- The date of a day counted from the first of March of the year 0. Years start in March here, so
-- that the leap day ends its year, and a group of 400 years has 146097 days.
def dateOfDay (day : Int) : Int × Nat × Nat :=
  let group := day.fdiv 146097
  let dayOfGroup := (day - group * 146097).toNat
  let yearOfGroup :=
    (dayOfGroup - dayOfGroup / 1460 + dayOfGroup / 36524 - dayOfGroup / 146096) / 365
  let dayOfYear := dayOfGroup - (365 * yearOfGroup + yearOfGroup / 4 - yearOfGroup / 100)
  let monthFromMarch := (5 * dayOfYear + 2) / 153
  let dayOfMonth := dayOfYear - (153 * monthFromMarch + 2) / 5 + 1
  let month := if monthFromMarch < 10 then monthFromMarch + 3 else monthFromMarch - 9
  let year := (yearOfGroup : Int) + group * 400 + if month ≤ 2 then 1 else 0
  (year, month, dayOfMonth)

def civil (instant : Instant) : CivilTime :=
  let day := instant.seconds.fdiv 86400
  let second := (instant.seconds - day * 86400).toNat
  let (year, month, dayOfMonth) := dateOfDay (day + 719468)
  ⟨year, month, dayOfMonth, second / 3600, second / 60 % 60, second % 60, instant.nanosecond⟩

end Instant

end ServerProbe

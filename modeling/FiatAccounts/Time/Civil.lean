/-
Instants as dates of the calendar: the Gregorian calendar in UTC, extended to
all years, with a year zero.

The count of days is cut into eras of four hundred years, which all have the
same length, and a year is taken to start in March, so that a leap day is the
last day of its year.
-/
import FiatAccounts.Time.Millis

namespace FiatAccounts

/-- A date and a time of day in UTC. -/
structure Civil where
  year : Int
  month : Int
  day : Int
  hour : Int
  minute : Int
  second : Int
  millisecond : Int
  deriving DecidableEq, Repr

namespace Civil

/-- The days of four hundred years. -/
def eraDays : Int := 146097

/-- Days from the first of March of the year zero to the start of 1970. -/
def daysToEpoch : Int := 719468

/-- Year, month and day of a day counted from the start of 1970. -/
def dateOfDay (day : Int) : Int × Int × Int :=
  let shifted := day + daysToEpoch
  let era := shifted / eraDays
  let dayOfEra := shifted % eraDays
  let yearOfEra :=
    (dayOfEra - dayOfEra / 1460 + dayOfEra / 36524 - dayOfEra / 146096) / 365
  let dayOfYear :=
    dayOfEra - (365 * yearOfEra + yearOfEra / 4 - yearOfEra / 100)
  let marchMonth := (5 * dayOfYear + 2) / 153
  let dayOfMonth := dayOfYear - (153 * marchMonth + 2) / 5 + 1
  let month := if marchMonth < 10 then marchMonth + 3 else marchMonth - 9
  let year := yearOfEra + 400 * era + if month ≤ 2 then 1 else 0
  (year, month, dayOfMonth)

/-- The first and the last year that a date can have. -/
def firstYear : Int := -262143

def lastYear : Int := 262142

/-- The date of an instant, unless its year is out of range. -/
def ofMillis? (instant : Millis) : Option Civil :=
  let ms := instant.toInt
  let (year, month, day) := dateOfDay (ms / 86400000)
  let timeOfDay := ms % 86400000
  if firstYear ≤ year ∧ year ≤ lastYear then
    some
      { year, month, day
        hour := timeOfDay / 3600000
        minute := timeOfDay / 60000 % 60
        second := timeOfDay / 1000 % 60
        millisecond := timeOfDay % 1000 }
  else none

end Civil

end FiatAccounts

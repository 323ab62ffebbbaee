/-
Checks of dates against the clock.
-/
import FiatAccounts.Check.Text
import FiatAccounts.Time.Millis

namespace FiatAccounts.Check

/-- 2016-04-27T00:00:00Z: nothing is older than the network's first release. -/
def networkLaunch : Millis := 1461715200000

/-- How far ahead of the clock a date must not be. -/
def twoHours : Millis := 7200000

/-- A date after the network's launch and less than two hours ahead of
`now`. -/
def date (field : String) (date now : Millis) : Check :=
  if date ≤ networkLaunch ∨ Millis.plus now twoHours ≤ date then
    fail field (.notAllowed (toString date.toInt))
  else pass

end FiatAccounts.Check

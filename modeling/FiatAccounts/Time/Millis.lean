/-
Instants in milliseconds since 1970-01-01T00:00:00Z, as signed 64-bit numbers.
Sums and differences that leave the range stop at its end, so a comparison of
two instants never wraps around.
-/

namespace FiatAccounts

/-- Milliseconds since the start of 1970 in UTC, or a span of milliseconds. -/
abbrev Millis := Int64

namespace Millis

/-- The number itself inside the 64-bit range, otherwise the nearer end of the
range. -/
def clamp (n : Int) : Millis :=
  if n < Int64.minValue.toInt then Int64.minValue
  else if Int64.maxValue.toInt < n then Int64.maxValue
  else Int64.ofInt n

/-- The sum, held inside the range. -/
def plus (a b : Millis) : Millis :=
  clamp (a.toInt + b.toInt)

/-- The difference, held inside the range. -/
def minus (a b : Millis) : Millis :=
  clamp (a.toInt - b.toInt)

/-- The distance of a span from zero, held inside the range. -/
def magnitude (a : Millis) : Millis :=
  clamp (Int.natAbs a.toInt)

end Millis

end FiatAccounts

/-
How held arithmetic compares with arithmetic that has no limit.

A result that leaves the 64 bits is moved to the nearer end of the range, so it
stays on the side on which it lies of every instant but that end. A comparison
with an instant therefore comes out as it would without a limit, unless the
instant is that end. Whether it is before a sum comes out wrong for the last
instant, since what lies behind it is held at it, and whether it is not after a
difference for the first one. What is held is in order all the same, whichever
end it is moved to (`minus_le_minus`).

The distance of two instants is held twice: the difference first, and then its
size, because the first number of the range has no opposite in it. The second
time changes no comparison. A difference that was held is already longer than
every span but the last one (`magnitude_minus_le_iff`).
-/
import FiatAccounts.Time.Millis

namespace FiatAccounts.Millis

variable {a x y x' y' : Millis}

/-- A held number is the number, moved to the nearer end of the range. -/
theorem toInt_clamp (n : Int) :
    (clamp n).toInt = max Int64.minValue.toInt (min n Int64.maxValue.toInt) := by
  have hends : Int64.minValue.toInt ≤ Int64.maxValue.toInt := by decide
  unfold clamp
  by_cases hlow : n < Int64.minValue.toInt
  · rw [if_pos hlow]
    omega
  · rw [if_neg hlow]
    by_cases hhigh : Int64.maxValue.toInt < n
    · rw [if_pos hhigh]
      omega
    · rw [if_neg hhigh]
      rw [Int64.toInt_minValue] at hlow ⊢
      rw [Int64.toInt_maxValue] at hhigh ⊢
      rw [Int64.toInt_ofInt_of_le (by omega) (by omega)]
      omega

-- ================================================================ sums

/-- No instant is before a held sum that is not before the sum itself. -/
theorem toInt_lt_of_lt_plus (h : a < plus x y) :
    a.toInt < x.toInt + y.toInt := by
  have hlow := a.minValue_le_toInt
  rw [plus, Int64.lt_iff_toInt_lt, toInt_clamp] at h
  omega

/-- An instant with another one after it is before a held sum exactly when it is
before the sum. -/
theorem lt_plus_iff (h : a < Int64.maxValue) :
    a < plus x y ↔ a.toInt < x.toInt + y.toInt := by
  refine ⟨toInt_lt_of_lt_plus, ?_⟩
  intro hlt
  have hlow := a.minValue_le_toInt
  rw [Int64.lt_iff_toInt_lt] at h ⊢
  rw [plus, toInt_clamp]
  omega

-- ======================================================== differences

/-- An instant with another one before it is not after a held difference exactly
when it is not after the difference. -/
theorem le_minus_iff (h : Int64.minValue < a) :
    a ≤ minus x y ↔ a.toInt + y.toInt ≤ x.toInt := by
  have hhigh := a.toInt_le
  rw [Int64.lt_iff_toInt_lt] at h
  rw [minus, Int64.le_iff_toInt_le, toInt_clamp]
  omega

/-- Held differences grow with what is taken from and shrink with what is
taken. -/
theorem minus_le_minus (hx : x ≤ x') (hy : y' ≤ y) :
    minus x y ≤ minus x' y' := by
  rw [Int64.le_iff_toInt_le] at hx hy ⊢
  rw [minus, minus, toInt_clamp, toInt_clamp]
  omega

-- ============================================================== halves

/-- Half of a span is always in the range. -/
theorem toInt_half (x : Millis) : (x / 2).toInt = x.toInt.tdiv 2 :=
  Int64.toInt_div_of_ne_right x 2 (by decide)

/-- Half of a longer span is no shorter. -/
theorem half_le_half (h : x ≤ x') : x / 2 ≤ x' / 2 := by
  rw [Int64.le_iff_toInt_le] at h ⊢
  rw [toInt_half, toInt_half]
  exact Int.tdiv_le_tdiv (by decide) h

-- =========================================================== distances

/-- Holding a distance makes it no longer. -/
theorem magnitude_minus_le_of_le
    (h : ((x.toInt - y.toInt).natAbs : Int) ≤ a.toInt) :
    magnitude (minus x y) ≤ a := by
  rw [magnitude, minus, Int64.le_iff_toInt_le, toInt_clamp, toInt_clamp,
    Int64.toInt_minValue, Int64.toInt_maxValue]
  omega

/-- A held distance is within a span, unless it is the longest of all, exactly
when the distance is. -/
theorem magnitude_minus_le_iff (h : a < Int64.maxValue) :
    magnitude (minus x y) ≤ a
      ↔ ((x.toInt - y.toInt).natAbs : Int) ≤ a.toInt := by
  refine ⟨?_, magnitude_minus_le_of_le⟩
  intro hle
  -- The ends have to be numbers here: only the size of the first instant is cut
  -- by the outer clamp, and by one.
  rw [Int64.lt_iff_toInt_lt, Int64.toInt_maxValue] at h
  rw [magnitude, minus, Int64.le_iff_toInt_le, toInt_clamp, toInt_clamp,
    Int64.toInt_minValue, Int64.toInt_maxValue] at hle
  omega

end FiatAccounts.Millis

/-
When a published record is due again.

Half of the lifetime is taken off the clock, and a record is due if it was
published no later than that. What is taken off may leave the range at either
end and is then held there. That changes the answer for one date only: the first
of all instants is no later than any other, so a record of that date is always
due (`isHalfExpired_of_min`), also where its half is far from over.

A record that is due stays so. Holding keeps instants in order, and that is all
that is needed to compare two looks at a record. No date has to be left out.
-/
import FiatAccounts.Proofs.Time.Millis
import FiatAccounts.Witness.Signing

namespace FiatAccounts

variable {published lifetime now published' lifetime' now' : Millis}

/-- The question is one comparison with a held difference. -/
theorem isHalfExpired_iff_le :
    isHalfExpired published lifetime now = true
      ↔ published ≤ Millis.minus now (lifetime / 2) :=
  decide_eq_true_iff

/-- A record is due exactly when half of its lifetime has passed, counted
without a limit. -/
theorem isHalfExpired_iff (h : Int64.minValue < published) :
    isHalfExpired published lifetime now = true
      ↔ published.toInt + lifetime.toInt.tdiv 2 ≤ now.toInt := by
  rw [isHalfExpired_iff_le, Millis.le_minus_iff h, Millis.toInt_half]

/-- A record of the first instant is due at any time and for any lifetime. -/
theorem isHalfExpired_of_min (h : published = Int64.minValue) :
    isHalfExpired published lifetime now = true := by
  rw [isHalfExpired_iff_le, h, Int64.le_iff_toInt_le]
  exact Int64.minValue_le_toInt _

/-- What is due stays due at a later time, and so is any record that is older or
lives shorter. -/
theorem isHalfExpired_mono (older : published' ≤ published)
    (shorter : lifetime' ≤ lifetime) (later : now ≤ now')
    (h : isHalfExpired published lifetime now = true) :
    isHalfExpired published' lifetime' now' = true := by
  rw [isHalfExpired_iff_le] at h ⊢
  have hhalf := Millis.half_le_half shorter
  have hleft := Millis.minus_le_minus later hhalf
  exact Int64.le_trans older (Int64.le_trans h hleft)

/-- Whether a record is due comes out as it would without a limit, half of the
lifetime being taken toward zero, for every date but the first. For every date
it is kept by a later clock, an earlier date and a shorter lifetime. A
configuration asks the same for the lifetime that it sets. -/
theorem isHalfExpired_exact (published lifetime now : Millis) :
    (Int64.minValue < published →
        (isHalfExpired published lifetime now = true
          ↔ published.toInt + lifetime.toInt.tdiv 2 ≤ now.toInt))
      ∧ (isHalfExpired published lifetime now = true →
        ∀ published' lifetime' now' : Millis,
          published' ≤ published → lifetime' ≤ lifetime → now ≤ now' →
          isHalfExpired published' lifetime' now' = true)
      ∧ ∀ config : Config,
        config.isHalfExpired published now
          = isHalfExpired published config.lifetime now := by
  refine ⟨isHalfExpired_iff, ?_, fun _ => rfl⟩
  intro h published' lifetime' now' older shorter later
  exact isHalfExpired_mono older shorter later h

/-- A difference that is held at the first instant, a lifetime below zero whose
half is taken toward zero, and an older record that lives shorter still. -/
theorem isHalfExpired_exact_ends :
    isHalfExpired (Int64.minValue + 1) 2 Int64.minValue = false
      ∧ isHalfExpired Int64.maxValue (-3) (Int64.maxValue - 1) = true
      ∧ isHalfExpired 0 Int64.minValue Int64.maxValue = true
      ∧ ({ Config.standard with lifetime := -3 } : Config).isHalfExpired
          Int64.maxValue (Int64.maxValue - 1)
        = true := by
  have hlow := isHalfExpired_exact (Int64.minValue + 1) 2 Int64.minValue
  have hhigh :=
    isHalfExpired_exact Int64.maxValue (-3) (Int64.maxValue - 1)
  have hdue : isHalfExpired Int64.maxValue (-3) (Int64.maxValue - 1) = true :=
    (hhigh.1 (by decide)).2 (by decide)
  refine ⟨?_, hdue, ?_, ?_⟩
  · rw [Bool.eq_false_iff, ne_eq, hlow.1 (by decide)]
    decide
  · exact hhigh.2.1 hdue _ _ _ (by decide) (by decide) (by decide)
  · exact (hhigh.2.2 _).trans hdue

end FiatAccounts

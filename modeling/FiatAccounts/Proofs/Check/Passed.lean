/-
What is known of a text or a date that has passed a check.

A check is a chain of refusals and passes when none of them applies
(`refuse_eq_ok`). The first refusal of every text that has to be there is that
it is empty, so each of these checks vouches for a text that says something.

A date is compared with a bound that is held inside the range of instants. What
passes is in range without a limit too, and the other way round for every date
but one.
-/
import FiatAccounts.Check.Bic
import FiatAccounts.Check.Codes
import FiatAccounts.Check.Contact
import FiatAccounts.Check.Date
import FiatAccounts.Check.Iban
import FiatAccounts.Proofs.Outcome
import FiatAccounts.Proofs.Time.Millis

namespace FiatAccounts.Check

variable {field value : String}

-- ============================================================ one step

/-- A refusal that does not apply leaves the rest of the check. -/
theorem refuse_eq_ok {p : Prop} [Decidable p] {constraint : Constraint}
    {rest : Check} :
    (if p then fail field constraint else rest) = .ok ()
      ↔ ¬p ∧ rest = .ok () := by
  split <;> simp [fail, *]

/-- A demand is a refusal of everything else. -/
theorem demand_eq_ok {p : Prop} [Decidable p] {constraint : Constraint} :
    (if p then pass else fail field constraint) = .ok () ↔ p := by
  split <;> simp [pass, fail, *]

theorem pass_eq_ok : pass = .ok () ↔ True :=
  iff_true_intro rfl

-- ============================================================= lengths

/-- A text that has to be there is not empty and keeps both bounds. -/
theorem requiredText_eq_ok {min max : Nat} :
    requiredText field value min max = .ok ()
      ↔ value ≠ "" ∧ min ≤ value.length ∧ value.length ≤ max := by
  unfold requiredText
  simp only [refuse_eq_ok, pass_eq_ok, Nat.not_lt, and_true, ne_eq]

/-- A text with a character in it is not empty. -/
theorem requiredText_eq_ok_of_pos {min max : Nat} (h : 0 < min) :
    requiredText field value min max = .ok ()
      ↔ min ≤ value.length ∧ value.length ≤ max := by
  rw [requiredText_eq_ok]
  refine and_iff_right_of_imp ?_
  rintro ⟨hmin, -⟩ rfl
  exact absurd hmin (Nat.not_le.2 h)

/-- A text that may be absent obeys the same rule where it is there. -/
theorem optionalText_eq_ok {value : Option String} {min max : Nat} :
    optionalText field value min max = .ok ()
      ↔ ∀ text ∈ value,
        text ≠ "" ∧ min ≤ text.length ∧ text.length ≤ max := by
  cases value with
  | none => exact iff_of_true rfl nofun
  | some text =>
      unfold optionalText
      rw [requiredText_eq_ok]
      simp

theorem optionalText_eq_ok_of_pos {value : Option String} {min max : Nat}
    (h : 0 < min) :
    optionalText field value min max = .ok ()
      ↔ ∀ text ∈ value, min ≤ text.length ∧ text.length ≤ max := by
  rw [optionalText_eq_ok]
  refine forall₂_congr fun text _ => ?_
  rw [← @requiredText_eq_ok field, requiredText_eq_ok_of_pos h]

-- =============================================================== codes

/-- A catalog without the empty code refuses it twice over. -/
theorem known_eq_ok {known : String → Bool} (h : known "" = false) :
    (if value = "" then fail field .empty
      else if known value then pass
      else fail field (.notAllowed value)) = .ok () ↔ known value = true := by
  rw [refuse_eq_ok, demand_eq_ok]
  refine and_iff_right_of_imp ?_
  rintro hknown rfl
  rw [h] at hknown
  cases hknown

/-- A country code passes if the catalog has it. -/
theorem countryCode_eq_ok :
    countryCode field value = .ok () ↔ Country.isKnown value = true :=
  known_eq_ok (by decide)

theorem currencyCode_eq_ok :
    currencyCode field value = .ok () ↔ Currency.isKnown value = true :=
  known_eq_ok (by decide)

/-- A list of codes passes if there is one in it and all of them are allowed.
The first that is not is the one that is reported. -/
theorem countryCodes_eq_ok {codes allowed : List String} :
    countryCodes field codes allowed = .ok ()
      ↔ codes ≠ [] ∧ ∀ code ∈ codes, code ∈ allowed := by
  unfold countryCodes
  rw [refuse_eq_ok]
  refine and_congr_right' ?_
  split
  next code hfound =>
    refine iff_of_false nofun ?_
    intro hall
    have hmem := hall code (List.mem_of_find?_eq_some hfound)
    have hfresh := List.find?_some hfound
    rw [List.contains_iff_mem.2 hmem] at hfresh
    cases hfresh
  next hnone =>
    refine iff_of_true rfl ?_
    intro code hcode
    have hallowed := List.find?_eq_none.1 hnone code hcode
    rw [Bool.not_eq_true', Bool.not_eq_false] at hallowed
    exact List.contains_iff_mem.1 hallowed

-- =============================================================== dates

/-- A date passes between the launch and two hours from now. Both ends are
refused, and the later one is held inside the range of instants. -/
theorem date_eq_ok {date now : Millis} :
    Check.date field date now = .ok ()
      ↔ networkLaunch < date ∧ date < Millis.plus now twoHours := by
  unfold Check.date
  simp only [refuse_eq_ok, pass_eq_ok, not_or, Int64.not_le, and_true]

/-- A date that passes is in the accepted range, counted without a limit. -/
theorem range_of_date {date now : Millis}
    (h : Check.date field date now = .ok ()) :
    1461715200000 < date.toInt ∧ date.toInt < now.toInt + 7200000 := by
  obtain ⟨hlaunch, hahead⟩ := date_eq_ok.1 h
  exact ⟨Int64.lt_iff_toInt_lt.1 hlaunch, Millis.toInt_lt_of_lt_plus hahead⟩

/-- Every date of the accepted range passes, but for the last of all instants,
at which a later end of the range is held. -/
theorem date_of_range {date now : Millis} (h : date < Int64.maxValue)
    (launched : 1461715200000 < date.toInt)
    (ahead : date.toInt < now.toInt + 7200000) :
    Check.date field date now = .ok () :=
  date_eq_ok.2
    ⟨Int64.lt_iff_toInt_lt.2 launched, (Millis.lt_plus_iff h).2 ahead⟩

-- ======================================================= no empty text

/-- A text that has to be there is there. -/
theorem requiredText_ne_empty {min max : Nat}
    (h : requiredText field value min max = .ok ()) : value ≠ "" :=
  (requiredText_eq_ok.1 h).1

theorem optionalText_ne_empty {min max : Nat}
    (h : optionalText field (some value) min max = .ok ()) : value ≠ "" :=
  requiredText_ne_empty h

theorem digits_ne_empty {min max : Nat}
    (h : digits field value min max = .ok ()) : value ≠ "" :=
  requiredText_ne_empty (bind_unit_eq_ok.1 h).1

theorem email_ne_empty (h : email field value = .ok ()) : value ≠ "" :=
  requiredText_ne_empty (bind_unit_eq_ok.1 h).1

theorem phone_ne_empty (h : phone field value = .ok ()) : value ≠ "" :=
  (refuse_eq_ok.1 h).1

theorem emailOrPhone_ne_empty (h : emailOrPhone field value = .ok ()) :
    value ≠ "" :=
  (refuse_eq_ok.1 h).1

theorem ibanOf_ne_empty {allowed : List String}
    (h : ibanOf allowed value = .ok ()) : value ≠ "" :=
  (refuse_eq_ok.1 (bind_unit_eq_ok.1 h).1).1

theorem bic_ne_empty (h : bic value = .ok ()) : value ≠ "" :=
  (refuse_eq_ok.1 h).1

end FiatAccounts.Check

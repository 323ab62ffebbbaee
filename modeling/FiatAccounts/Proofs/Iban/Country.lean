/-
The country that an account number was issued in.

Two rules look for it. One takes the first two characters as they are, the other
leaves blanks out and writes the rest in upper case first. An account number
opens with two capital letters of ASCII, which are not blank and are their own
upper case, so the two rules find the same country (`ibanCountry_eq`).
-/
import FiatAccounts.Proofs.Check.Passed
import FiatAccounts.Proofs.Iban.Verdict

namespace FiatAccounts

namespace Text

variable {c : Char}

/-- No capital letter is a blank. -/
theorem Blank.isBlank_of_isUpper (h : c.isUpper = true) :
    isBlank c = false := by
  -- one letter after the other: the tables have no form to reason by
  have hletters : ∀ n < 91, 65 ≤ n → isBlank (Char.ofNat n) = false := by
    decide
  obtain ⟨hge, hle⟩ := isUpper_iff.1 h
  rw [← Char.ofNat_toNat c]
  exact hletters c.toNat (Nat.lt_succ_of_le hle) hge

/-- A capital letter is its own upper case. -/
theorem UpperCase.upper_of_isUpper (h : c.isUpper = true) : upper c = [c] := by
  have hletters : ∀ n < 91, 65 ≤ n → upper (Char.ofNat n) = [Char.ofNat n] := by
    decide +kernel
  obtain ⟨hge, hle⟩ := isUpper_iff.1 h
  rw [← Char.ofNat_toNat c]
  exact hletters c.toNat (Nat.lt_succ_of_le hle) hge

end Text

namespace Check

open Text

variable {value country : String}

/-- The first two letters, whether blanks and lower case are seen to or not. -/
theorem ibanCountry_eq (h : IbanShaped value) :
    ibanCountry value = String.ofList (value.toList.take 2)
      ∧ (ibanCountry value).length = 2 := by
  have hlength := (isIbanShape_iff.1 (ibanShaped_iff.1 h)).1.1
  have hletters := h.country
  unfold ibanCountry
  rcases hvalue : value.toList with _ | ⟨a, _ | ⟨b, rest⟩⟩
  case cons.cons =>
    rw [hvalue, List.take_succ_cons, List.take_succ_cons, List.take_zero,
      List.forall_mem_cons, List.forall_mem_singleton] at hletters
    obtain ⟨ha, hb⟩ := hletters
    simp only [List.filter_cons, Blank.isBlank_of_isUpper ha,
      Blank.isBlank_of_isUpper hb, Bool.not_false, if_true,
      List.take_succ_cons, List.take_zero, List.flatMap_cons,
      List.flatMap_nil, UpperCase.upper_of_isUpper ha,
      UpperCase.upper_of_isUpper hb, List.append_nil, List.singleton_append,
      String.length_ofList, List.length_cons, List.length_nil, and_self]
  all_goals
    rw [hvalue] at hlength
    simp at hlength

/-- An account number of one of some countries is an account number that opens
with the country's letters. -/
theorem ibanOf_eq_ok {allowed : List String} :
    ibanOf allowed value = .ok ()
      ↔ iban value = .ok ()
        ∧ String.ofList (value.toList.take 2) ∈ allowed := by
  unfold ibanOf
  rw [bind_unit_eq_ok, demand_eq_ok, List.contains_iff_mem]

/-- On an account number the second rule compares the first two letters with the
country and does nothing else. -/
theorem ibanCountryIs_eq_ok (h : IbanShaped value) :
    ibanCountryIs value country = .ok ()
      ↔ String.ofList (value.toList.take 2) = country := by
  obtain ⟨hcountry, hlength⟩ := ibanCountry_eq h
  unfold ibanCountryIs
  simp only [refuse_eq_ok, pass_eq_ok, and_true, hlength, ← hcountry, ne_eq,
    Decidable.not_not, Nat.lt_irrefl, not_false_eq_true, true_and,
    and_iff_right_iff_imp]
  rintro rfl hempty
  rw [hempty] at hlength
  cases hlength

end Check

end FiatAccounts

/-
Which texts are account numbers, and what is wrong with the others.

A text is accepted if it has the shape, at least fifteen bytes and a number that
is a multiple of 97 plus one. `IbanVerdict` says so of every outcome of the
check, without the check's order, its remainder or its count of characters. The
cases exclude each other, so there is no second verdict on a text
(`iban_eq_iff`), and none of them is that a text is too long: what is longer
than any account number has not the shape of one.
-/
import FiatAccounts.Proofs.Check.Passed
import FiatAccounts.Proofs.Iban.Number
import FiatAccounts.Proofs.Iban.Stored

namespace FiatAccounts.Check

open Text

variable {value : String}

/-- The outcome that the rule prescribes for a text. -/
inductive IbanVerdict (value : String) : Check → Prop where
  | empty (none : value = "") : IbanVerdict value (fail "iban" .empty)
  | pattern (some : value ≠ "") (unshaped : ¬IbanShaped value) :
    IbanVerdict value
      (fail "iban" (.pattern "country code, check digits and BBAN"))
  | tooShort (shaped : IbanShaped value) (short : value.utf8ByteSize < 15) :
    IbanVerdict value (fail "iban" (.tooShort 15 value.utf8ByteSize))
  | checksum (shaped : IbanShaped value) (long : 15 ≤ value.utf8ByteSize)
      (wrong : ibanNumber value.toList % 97 ≠ 1) :
    IbanVerdict value (fail "iban" .checksum)
  | accepted (shaped : IbanShaped value) (long : 15 ≤ value.utf8ByteSize)
      (right : ibanNumber value.toList % 97 = 1) :
    IbanVerdict value pass

theorem not_ibanShaped_empty : ¬IbanShaped "" :=
  fun h => absurd h.size.1 (by decide)

/-- The check on a text of the shape. -/
theorem iban_of_shaped (h : IbanShaped value) :
    iban value
      = if value.utf8ByteSize < 15 then
          fail "iban" (.tooShort 15 value.utf8ByteSize)
        else if ibanNumber value.toList % 97 ≠ 1 then fail "iban" .checksum
        else pass := by
  have hshape := ibanShaped_iff.1 h
  have hempty : value ≠ "" := fun he => not_ibanShaped_empty (he ▸ h)
  unfold iban
  rw [if_neg hempty, hshape, if_neg (by decide), String.length_toList,
    ← h.isAscii.utf8ByteSize_eq,
    ibanRemainder_eq (isCapitalOrDigit_of_shape hshape)]
  rfl

/-- A text that has not the shape is refused for the pattern, unless it is
empty. -/
theorem iban_of_not_shaped (hempty : value ≠ "") (h : ¬IbanShaped value) :
    iban value
      = fail "iban" (.pattern "country code, check digits and BBAN") := by
  rw [ibanShaped_iff, Bool.not_eq_true] at h
  unfold iban
  rw [if_neg hempty, h]
  rfl

/-- The check comes to one of the verdicts. -/
theorem ibanVerdict_iban (value : String) : IbanVerdict value (iban value) := by
  by_cases hempty : value = ""
  · subst hempty
    exact .empty rfl
  by_cases hshaped : IbanShaped value
  · rw [iban_of_shaped hshaped]
    split
    next hshort => exact .tooShort hshaped hshort
    next hlong =>
      split
      next hwrong => exact .checksum hshaped (Nat.not_lt.1 hlong) hwrong
      next hright =>
        exact .accepted hshaped (Nat.not_lt.1 hlong)
          (Decidable.not_not.1 hright)
  · rw [iban_of_not_shaped hempty hshaped]
    exact .pattern hempty hshaped

/-- A verdict on a text is what the check comes to. -/
theorem IbanVerdict.eq_iban {verdict : Check} (h : IbanVerdict value verdict) :
    iban value = verdict := by
  cases h with
  | empty none =>
      subst none
      rfl
  | pattern some unshaped => exact iban_of_not_shaped some unshaped
  | tooShort shaped short => rw [iban_of_shaped shaped, if_pos short]
  | checksum shaped long wrong =>
      rw [iban_of_shaped shaped, if_neg (Nat.not_lt.2 long), if_pos wrong]
  | accepted shaped long right =>
      rw [iban_of_shaped shaped, if_neg (Nat.not_lt.2 long),
        if_neg (Decidable.not_not.2 right)]

/-- The verdict on a text is the one that is prescribed. -/
theorem iban_eq_iff {verdict : Check} :
    iban value = verdict ↔ IbanVerdict value verdict :=
  ⟨fun h => h ▸ ibanVerdict_iban value, IbanVerdict.eq_iban⟩

/-- A text is an account number by its shape, its size and the remainder of its
number. -/
theorem iban_eq_ok :
    iban value = .ok ()
      ↔ IbanShaped value ∧ 15 ≤ value.utf8ByteSize
        ∧ ibanNumber value.toList % 97 = 1 := by
  constructor
  · intro h
    cases iban_eq_iff.1 h with
    | accepted shaped long right => exact ⟨shaped, long, right⟩
  · rintro ⟨shaped, long, right⟩
    exact iban_eq_iff.2 (.accepted shaped long right)

/-- Account numbers are accepted by their shape, their size and the remainder of
their number, and any other text is refused for what it breaks first. A text
that is out of all bounds or not of ASCII lacks the shape, so no verdict is that
a text is too long. On stored text no step of the check is impossible. -/
theorem iban_exact (value : String) :
    (iban value = .ok ()
        ↔ IbanShaped value ∧ 15 ≤ value.utf8ByteSize
          ∧ ibanNumber value.toList % 97 = 1)
      ∧ (∀ verdict, iban value = verdict ↔ IbanVerdict value verdict)
      ∧ (value ≠ "" →
        value.utf8ByteSize < 5 ∨ 34 < value.utf8ByteSize ∨ ¬IsAscii value →
        iban value
          = fail "iban" (.pattern "country code, check digits and BBAN"))
      ∧ (∀ max actual, iban value ≠ fail "iban" (.tooLong max actual))
      ∧ Stored.iban? value = some (iban value) := by
  refine ⟨iban_eq_ok, fun _ => iban_eq_iff, ?_, ?_, Stored.iban?_eq value⟩
  · intro hempty hout
    refine iban_of_not_shaped hempty fun hshaped => ?_
    obtain ⟨hge, hle⟩ := hshaped.size
    rcases hout with hshort | hlong | hascii
    · omega
    · omega
    · exact hascii hshaped.isAscii
  · intro max actual h
    cases iban_eq_iff.1 h

/-- An account number with a letter that is not of ASCII, and one from the
handbook. -/
theorem iban_exact_samples :
    iban "DE89370400440532013000" = .ok ()
      ∧ iban "ÖE89370400440532013000"
        = fail "iban" (.pattern "country code, check digits and BBAN") := by
  constructor
  · refine (iban_exact _).1.2 ⟨ibanShaped_iff.2 (by decide), by decide, ?_⟩
    decide +kernel
  · refine (iban_exact _).2.2.1 (by decide) (.inr (.inr fun hascii => ?_))
    exact absurd (hascii 'Ö' (by decide)) (by decide)

end FiatAccounts.Check

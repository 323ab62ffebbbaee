/-
The number behind an account number.

The rule of the check digits speaks of one whole number of up to 68 digits. It
is written down here as the rule has it: the first four characters stand last,
every letter is spelled as one of 10 to 35, and what this gives is read as a
decimal number (`ibanNumber`). The check never forms that number. It keeps a
remainder by 97 and takes in one character at a time, which comes to the same
(`ibanRemainder_eq`), because the remainder of a number decides that of the
number with more digits behind it.
-/
import Mathlib.Data.Nat.ModEq
import FiatAccounts.Check.Iban
import FiatAccounts.Proofs.Text.Ascii

namespace FiatAccounts.Check

open Text

-- ========================================================== the number

/-- A character as it is spelled in the number. -/
def ibanSpelling (c : Char) : List Char :=
  if c.isUpper then Nat.toDigits 10 (c.toNat - 'A'.toNat + 10) else [c]

/-- The number that characters spell one after the other. -/
def spelledNumber (cs : List Char) : Nat :=
  Nat.ofDigitChars 10 (cs.flatMap ibanSpelling) 0

/-- The number of an account number, whose first four characters stand last. -/
def ibanNumber (cs : List Char) : Nat :=
  spelledNumber (cs.drop 4 ++ cs.take 4)

/-- What is spelled first moves up by as many digits as follow. -/
theorem spelledNumber_append (cs ds : List Char) :
    spelledNumber (cs ++ ds)
      = 10 ^ (ds.flatMap ibanSpelling).length * spelledNumber cs
        + spelledNumber ds := by
  unfold spelledNumber
  rw [List.flatMap_append, Nat.ofDigitChars_append,
    Nat.ofDigitChars_eq_ofDigitChars_zero]

-- ======================================================= one character

section

variable {c : Char}

/-- A digit is spelled as itself. -/
theorem ibanSpelling_of_isDigit (h : c.isDigit = true) :
    ibanSpelling c = [c] := by
  rw [ibanSpelling, not_isUpper_of_isDigit h, if_neg Bool.false_ne_true]

/-- A digit counts for itself. -/
theorem spelledNumber_of_isDigit (h : c.isDigit = true) :
    spelledNumber [c] = c.toNat - '0'.toNat := by
  rw [spelledNumber, List.flatMap_singleton, ibanSpelling_of_isDigit h,
    Nat.ofDigitChars_cons, Nat.ofDigitChars_nil, Nat.mul_zero, Nat.zero_add]

/-- A letter counts for its place in the alphabet, from ten on. -/
theorem spelledNumber_of_isUpper (h : c.isUpper = true) :
    spelledNumber [c] = c.toNat - 'A'.toNat + 10 := by
  rw [spelledNumber, List.flatMap_singleton, ibanSpelling, if_pos h,
    Nat.ofDigitChars_ten_toDigits]

/-- A letter is spelled with two digits, because it counts from 10 to 35. -/
theorem length_ibanSpelling_of_isUpper (h : c.isUpper = true) :
    (ibanSpelling c).length = 2 := by
  have hrange := isUpper_iff.1 h
  have hbase : 'A'.toNat = 65 := rfl
  have hle : (ibanSpelling c).length ≤ 2 := by
    rw [ibanSpelling, if_pos h, Nat.length_toDigits_le_iff (by decide)
      (by decide)]
    omega
  have hlt : ¬(ibanSpelling c).length ≤ 1 := by
    rw [ibanSpelling, if_pos h, Nat.length_toDigits_le_iff (by decide)
      (by decide)]
    omega
  omega

end

-- ======================================================= the remainder

/-- One more character, as the remainder takes it in and as the number does. -/
theorem ibanStep_mod {c : Char} (h : isCapitalOrDigit c = true) (n : Nat) :
    ibanStep (n % 97) c = Nat.ofDigitChars 10 (ibanSpelling c) n % 97 := by
  have hspelled : Nat.ofDigitChars 10 (ibanSpelling c) n
      = 10 ^ (ibanSpelling c).length * n + spelledNumber [c] := by
    rw [spelledNumber, List.flatMap_singleton,
      Nat.ofDigitChars_eq_ofDigitChars_zero]
  rw [hspelled]
  rcases Bool.or_eq_true _ _ ▸ h with hupper | hdigit
  · rw [length_ibanSpelling_of_isUpper hupper, spelledNumber_of_isUpper hupper,
      ibanStep, not_isDigit_of_isUpper hupper, if_neg Bool.false_ne_true]
    omega
  · rw [ibanSpelling_of_isDigit hdigit, List.length_singleton,
      spelledNumber_of_isDigit hdigit, ibanStep, if_pos hdigit]
    omega

/-- Any number of characters, by induction on them: what is read next depends on
the number so far only through its remainder. -/
theorem foldl_ibanStep {cs : List Char}
    (h : ∀ c ∈ cs, isCapitalOrDigit c = true) (n : Nat) :
    cs.foldl ibanStep (n % 97)
      = Nat.ofDigitChars 10 (cs.flatMap ibanSpelling) n % 97 := by
  induction cs generalizing n with
  | nil => rfl
  | cons c cs ih =>
      obtain ⟨hc, hcs⟩ := List.forall_mem_cons.1 h
      rw [List.foldl_cons, ibanStep_mod hc, ih hcs, List.flatMap_cons,
        Nat.ofDigitChars_append]

/-- The remainder is that of the whole number. -/
theorem ibanRemainder_eq {cs : List Char}
    (h : ∀ c ∈ cs, isCapitalOrDigit c = true) :
    ibanRemainder cs = ibanNumber cs % 97 := by
  refine foldl_ibanStep ?_ 0
  intro c hc
  rcases List.mem_append.1 hc with hc | hc
  · exact h c (List.mem_of_mem_drop hc)
  · exact h c (List.mem_of_mem_take hc)

end FiatAccounts.Check

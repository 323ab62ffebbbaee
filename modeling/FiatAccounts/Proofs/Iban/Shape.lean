/-
The shape of an account number.

`isIbanShape` takes the characters apart one after the other. What it asks for
is two letters, two digits and from one to thirty letters and digits behind
them (`isIbanShape_iff`). Nothing but ASCII passes, so the characters that are
counted there are as many as the bytes that the rule counts
(`ibanShaped_iff`).
-/
import FiatAccounts.Check.Iban
import FiatAccounts.Proofs.Text.Ascii

namespace FiatAccounts.Check

open Text

-- ====================================================== the characters

/-- The three parts of an account number are the whole of it. -/
theorem forall_of_parts {α : Type} {xs : List α} {p : α → Prop}
    (country : ∀ x ∈ xs.take 2, p x)
    (check : ∀ x ∈ (xs.drop 2).take 2, p x)
    (account : ∀ x ∈ xs.drop 4, p x) : ∀ x ∈ xs, p x := by
  have hparts : xs.take 2 ++ ((xs.drop 2).take 2 ++ xs.drop 4) = xs := by
    rw [← List.drop_drop (i := 2) (j := 2), List.take_append_drop,
      List.take_append_drop]
  rw [← hparts, List.forall_mem_append, List.forall_mem_append]
  exact ⟨country, check, account⟩

/-- The shape part by part: the country, the check digits, and from one to
thirty letters and digits. -/
theorem isIbanShape_iff {cs : List Char} :
    isIbanShape cs = true
      ↔ (5 ≤ cs.length ∧ cs.length ≤ 34)
        ∧ (∀ c ∈ cs.take 2, c.isUpper = true)
        ∧ (∀ c ∈ (cs.drop 2).take 2, c.isDigit = true)
        ∧ ∀ c ∈ cs.drop 4, isCapitalOrDigit c = true := by
  rcases cs with _ | ⟨a, _ | ⟨b, _ | ⟨c, _ | ⟨d, account⟩⟩⟩⟩
  case cons.cons.cons.cons =>
    have hsize : 0 < account.length ↔ account ≠ [] := List.length_pos_iff
    simp only [isIbanShape, Bool.and_eq_true, decide_eq_true_eq,
      List.all_eq_true, Bool.not_eq_true', List.isEmpty_eq_false_iff, ← hsize,
      List.length_cons, List.take_succ_cons, List.drop_succ_cons,
      List.take_zero, List.drop_zero, List.forall_mem_cons]
    grind
  all_goals simp [isIbanShape]

theorem isCapitalOrDigit_of_isUpper {c : Char} (h : c.isUpper = true) :
    isCapitalOrDigit c = true := by
  rw [isCapitalOrDigit, h, Bool.true_or]

theorem isCapitalOrDigit_of_isDigit {c : Char} (h : c.isDigit = true) :
    isCapitalOrDigit c = true := by
  rw [isCapitalOrDigit, h, Bool.or_true]

/-- Capital letters and digits are of ASCII. -/
theorem toNat_lt_of_isCapitalOrDigit {c : Char}
    (h : isCapitalOrDigit c = true) : c.toNat < 128 := by
  rcases Bool.or_eq_true _ _ ▸ h with hupper | hdigit
  · exact Nat.lt_of_le_of_lt (isUpper_iff.1 hupper).2 (by decide)
  · exact Nat.lt_of_le_of_lt (isDigit_iff.1 hdigit).2 (by decide)

/-- What the three parts ask of every character. -/
theorem isCapitalOrDigit_of_parts {cs : List Char}
    (country : ∀ c ∈ cs.take 2, c.isUpper = true)
    (check : ∀ c ∈ (cs.drop 2).take 2, c.isDigit = true)
    (account : ∀ c ∈ cs.drop 4, isCapitalOrDigit c = true) :
    ∀ c ∈ cs, isCapitalOrDigit c = true :=
  forall_of_parts (fun c hc => isCapitalOrDigit_of_isUpper (country c hc))
    (fun c hc => isCapitalOrDigit_of_isDigit (check c hc)) account

/-- What has the shape is made of capital letters and digits. -/
theorem isCapitalOrDigit_of_shape {cs : List Char} (h : isIbanShape cs = true) :
    ∀ c ∈ cs, isCapitalOrDigit c = true := by
  obtain ⟨-, hcountry, hcheck, haccount⟩ := isIbanShape_iff.1 h
  exact isCapitalOrDigit_of_parts hcountry hcheck haccount

-- ============================================================ the text

/-- Two letters, two digits, then letters and digits, in 5 to 34 bytes. -/
structure IbanShaped (value : String) : Prop where
  size : 5 ≤ value.utf8ByteSize ∧ value.utf8ByteSize ≤ 34
  country : ∀ c ∈ value.toList.take 2, c.isUpper = true
  check : ∀ c ∈ (value.toList.drop 2).take 2, c.isDigit = true
  account : ∀ c ∈ value.toList.drop 4, isCapitalOrDigit c = true

variable {value : String}

/-- A text of capital letters and digits has one byte for each character. -/
theorem isAscii_of_isCapitalOrDigit
    (h : ∀ c ∈ value.toList, isCapitalOrDigit c = true) : IsAscii value :=
  fun c hc => toNat_lt_of_isCapitalOrDigit (h c hc)

theorem IbanShaped.isAscii (h : IbanShaped value) : IsAscii value :=
  isAscii_of_isCapitalOrDigit <|
    isCapitalOrDigit_of_parts h.country h.check h.account

/-- The shape is the same whether bytes are counted or characters. -/
theorem ibanShaped_iff :
    IbanShaped value ↔ isIbanShape value.toList = true := by
  constructor
  · intro h
    have hsize := h.size
    rw [h.isAscii.utf8ByteSize_eq, ← String.length_toList] at hsize
    exact isIbanShape_iff.2 ⟨hsize, h.country, h.check, h.account⟩
  · intro h
    have hascii := isAscii_of_isCapitalOrDigit (isCapitalOrDigit_of_shape h)
    obtain ⟨hsize, hcountry, hcheck, haccount⟩ := isIbanShape_iff.1 h
    rw [String.length_toList, ← hascii.utf8ByteSize_eq] at hsize
    exact ⟨hsize, hcountry, hcheck, haccount⟩

end FiatAccounts.Check

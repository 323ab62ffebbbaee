/-
What the check digits of an account number are for: a slip of the typist's.

The two slips that are made most are one wrong character and two neighbours that
changed places. In either a short stretch of the text gives way to another one
with digits for digits and letters for letters, so that the shape stays the same
and so does the weight of every character. What is left of the difference
between the two numbers is then the difference of the two stretches, shifted by
some decimal places. A shift is invisible to the remainder by 97, which shares
no factor with ten (`ibanNumber_stretch_ne`), and the difference is less than 97
or 9 or 99 times what is less than 97, so it is seen.
-/
import FiatAccounts.Proofs.Iban.Verdict

namespace FiatAccounts.Check

open Text

-- ============================================================= classes

/-- Two digits or two letters. -/
def SameClass (c d : Char) : Prop :=
  (c.isDigit = true ∧ d.isDigit = true)
    ∨ (c.isUpper = true ∧ d.isUpper = true)

/-- A text and the one that was typed in its place. -/
inductive Slip : List Char → List Char → Prop where
  | replaced (before after : List Char) {c d : Char} (same : SameClass c d)
    (other : c ≠ d) : Slip (before ++ c :: after) (before ++ d :: after)
  | exchanged (before after : List Char) {c d : Char} (same : SameClass c d)
    (other : c ≠ d) (place : before.length + 2 ≤ 4 ∨ 4 ≤ before.length) :
    Slip (before ++ c :: d :: after) (before ++ d :: c :: after)

/-- All that the shape and the weights depend on. -/
def classOf (c : Char) : Bool × Bool :=
  (c.isUpper, c.isDigit)

/-- Two digits are of one class, and so are two letters. -/
theorem SameClass.classOf_eq {c d : Char} (h : SameClass c d) :
    classOf c = classOf d := by
  rcases h with ⟨hc, hd⟩ | ⟨hc, hd⟩
  · rw [classOf, classOf, hc, hd, not_isUpper_of_isDigit hc,
      not_isUpper_of_isDigit hd]
  · rw [classOf, classOf, hc, hd, not_isDigit_of_isUpper hc,
      not_isDigit_of_isUpper hd]

/-- The shape depends on the classes of the characters only. -/
theorem isIbanShape_iff_classes {cs : List Char} :
    isIbanShape cs = true
      ↔ (5 ≤ (cs.map classOf).length ∧ (cs.map classOf).length ≤ 34)
        ∧ (∀ k ∈ (cs.map classOf).take 2, k.1 = true)
        ∧ (∀ k ∈ ((cs.map classOf).drop 2).take 2, k.2 = true)
        ∧ ∀ k ∈ (cs.map classOf).drop 4, (k.1 || k.2) = true := by
  simp only [← List.map_take, ← List.map_drop, List.forall_mem_map,
    List.length_map]
  exact isIbanShape_iff

/-- A letter is two digits of the number and anything else one. -/
theorem length_ibanSpelling (c : Char) :
    (ibanSpelling c).length = if (classOf c).1 then 2 else 1 := by
  by_cases hupper : c.isUpper = true
  · rw [length_ibanSpelling_of_isUpper hupper, classOf, if_pos hupper]
  · rw [ibanSpelling, if_neg hupper, classOf, if_neg hupper]
    rfl

section

variable {cs ds : List Char} (h : cs.map classOf = ds.map classOf)

include h

/-- Texts of the same classes have the same shape. -/
theorem ibanShape_congr :
    isIbanShape cs = true ↔ isIbanShape ds = true := by
  rw [isIbanShape_iff_classes, h, ← isIbanShape_iff_classes]

/-- Texts of the same classes are spelled with the same number of digits. -/
theorem length_spelling_congr :
    (cs.flatMap ibanSpelling).length = (ds.flatMap ibanSpelling).length := by
  have hdigits : ∀ es : List Char, (es.flatMap ibanSpelling).length
      = ((es.map classOf).map fun k => if k.1 then 2 else 1).sum := by
    intro es
    rw [List.length_flatMap, List.map_map]
    exact congrArg List.sum (List.map_congr_left fun c _ =>
      length_ibanSpelling c)
  rw [hdigits, hdigits, h]

end

-- ======================================================== the stretches

/-- A stretch that lies within the first four characters or behind them stays in
one piece when these are put last. -/
theorem exists_rearranged (before after : List Char) {n : Nat}
    (place : before.length + n ≤ 4 ∨ 4 ≤ before.length) :
    ∃ front back : List Char, ∀ mid : List Char, mid.length = n →
      (before ++ (mid ++ after)).drop 4 ++ (before ++ (mid ++ after)).take 4
        = front ++ (mid ++ back) := by
  rcases place with hfirst | hlast
  -- the stretch is put last, and what stood before it stays before it
  · refine ⟨after.drop (4 - (before.length + n)) ++ before,
      after.take (4 - (before.length + n)), fun mid hmid => ?_⟩
    have hlength : (before ++ mid).length = before.length + n := by
      rw [List.length_append, hmid]
    have hle : (before ++ mid).length ≤ 4 := hlength ▸ hfirst
    rw [← List.append_assoc before, List.drop_append, List.take_append,
      List.drop_of_length_le hle, List.take_of_length_le hle, hlength]
    simp only [List.nil_append, List.append_assoc]
  · refine ⟨before.drop 4, after ++ before.take 4, fun mid _ => ?_⟩
    rw [List.drop_append_of_le_length hlast,
      List.take_append_of_le_length hlast]
    simp only [List.append_assoc]

section

variable {before mid mid' after : List Char}
  (class_eq : mid.map classOf = mid'.map classOf)
  (place : before.length + mid.length ≤ 4 ∨ 4 ≤ before.length)
  (differ : ¬spelledNumber mid ≡ spelledNumber mid' [MOD 97])

include class_eq place differ

/-- What stands before and behind the stretch adds the same to both numbers, and
ten can be cancelled from the rest. -/
theorem ibanNumber_stretch_ne :
    ¬ibanNumber (before ++ (mid ++ after))
      ≡ ibanNumber (before ++ (mid' ++ after)) [MOD 97] := by
  obtain ⟨front, back, hback⟩ := exists_rearranged before after place
  have hlength : mid'.length = mid.length := by
    rw [← List.length_map classOf, ← class_eq, List.length_map]
  intro h
  rw [ibanNumber, ibanNumber, hback mid rfl, hback mid' hlength,
    spelledNumber_append front, spelledNumber_append front,
    spelledNumber_append mid, spelledNumber_append mid', List.flatMap_append,
    List.flatMap_append, List.length_append, List.length_append,
    length_spelling_congr class_eq] at h
  -- what stands around the stretches falls out, and then the shift does
  have hshifted := (h.add_left_cancel' _).add_right_cancel' _
  exact differ (hshifted.cancel_left_of_coprime
    (Nat.Coprime.pow_right _ (by decide)))

/-- An account number with a stretch replaced in this way still has its shape
and its length. So it is refused, and for the check digits. -/
theorem iban_of_stretch {value typed : String}
    (hvalid : iban value = .ok ())
    (hvalue : value.toList = before ++ (mid ++ after))
    (htyped : typed.toList = before ++ (mid' ++ after)) :
    iban typed = fail "iban" .checksum := by
  obtain ⟨hshaped, hlong, hright⟩ := iban_eq_ok.1 hvalid
  have hclasses : value.toList.map classOf = typed.toList.map classOf := by
    rw [hvalue, htyped]
    simp only [List.map_append, class_eq]
  have hshaped' : IbanShaped typed :=
    ibanShaped_iff.2 ((ibanShape_congr hclasses).1 (ibanShaped_iff.1 hshaped))
  have hsize : value.utf8ByteSize = typed.utf8ByteSize := by
    rw [hshaped.isAscii.utf8ByteSize_eq, hshaped'.isAscii.utf8ByteSize_eq,
      ← String.length_toList, ← String.length_toList,
      ← List.length_map classOf, hclasses, List.length_map]
  refine iban_eq_iff.2 (.checksum hshaped' (hsize ▸ hlong) fun hwrong => ?_)
  have hequal : ibanNumber (before ++ (mid ++ after))
      ≡ ibanNumber (before ++ (mid' ++ after)) [MOD 97] := by
    rw [← hvalue, ← htyped]
    exact hright.trans hwrong.symm
  exact ibanNumber_stretch_ne class_eq place differ hequal

end

-- =========================================================== the slips

section

variable {c d : Char} (same : SameClass c d) (other : c ≠ d)

include same other

/-- The numbers of two characters of one class are less than 97 apart. -/
theorem spelledNumber_replaced :
    ¬spelledNumber [c] ≡ spelledNumber [d] [MOD 97] := by
  have hne : c.toNat ≠ d.toNat := fun h => other (Char.toNat_inj.1 h)
  have hzero : '0'.toNat = 48 := rfl
  have hbase : 'A'.toNat = 65 := rfl
  unfold Nat.ModEq
  rcases same with ⟨hc, hd⟩ | ⟨hc, hd⟩
  · have := isDigit_iff.1 hc
    have := isDigit_iff.1 hd
    rw [spelledNumber_of_isDigit hc, spelledNumber_of_isDigit hd]
    omega
  · have := isUpper_iff.1 hc
    have := isUpper_iff.1 hd
    rw [spelledNumber_of_isUpper hc, spelledNumber_of_isUpper hd]
    omega

/-- An exchange makes a difference of 9 or 99 times that of the characters. -/
theorem spelledNumber_exchanged :
    ¬spelledNumber [c, d] ≡ spelledNumber [d, c] [MOD 97] := by
  have hne : c.toNat ≠ d.toNat := fun h => other (Char.toNat_inj.1 h)
  have hzero : '0'.toNat = 48 := rfl
  have hbase : 'A'.toNat = 65 := rfl
  have hpair : ∀ a b : Char, spelledNumber [a, b]
      = 10 ^ (ibanSpelling b).length * spelledNumber [a]
        + spelledNumber [b] := by
    intro a b
    rw [← List.singleton_append, spelledNumber_append, List.flatMap_singleton]
  rw [hpair c d, hpair d c]
  unfold Nat.ModEq
  -- nine times the difference of digits, ninety-nine times that of letters
  rcases same with ⟨hc, hd⟩ | ⟨hc, hd⟩
  · have := isDigit_iff.1 hc
    have := isDigit_iff.1 hd
    rw [spelledNumber_of_isDigit hc, spelledNumber_of_isDigit hd,
      ibanSpelling_of_isDigit hc, ibanSpelling_of_isDigit hd,
      List.length_singleton, List.length_singleton]
    omega
  · have := isUpper_iff.1 hc
    have := isUpper_iff.1 hd
    rw [spelledNumber_of_isUpper hc, spelledNumber_of_isUpper hd,
      length_ibanSpelling_of_isUpper hc, length_ibanSpelling_of_isUpper hd]
    omega

end

/-- What a slip makes of an account number is refused, and for its check digits:
the shape is as it was. -/
theorem iban_catches_slip {value typed : String} (hvalid : iban value = .ok ())
    (hslip : Slip value.toList typed.toList) :
    iban typed = fail "iban" .checksum := by
  generalize hvalue : value.toList = cs at hslip
  generalize htyped : typed.toList = ds at hslip
  cases hslip with
  | @replaced before after c d same other =>
      have hclass : [c].map classOf = [d].map classOf :=
        congrArg (fun k => [k]) same.classOf_eq
      have hplace : before.length + 1 ≤ 4 ∨ 4 ≤ before.length := by omega
      exact iban_of_stretch hclass hplace
        (spelledNumber_replaced same other) hvalid hvalue htyped
  | @exchanged before after c d same other place =>
      have hclass : [c, d].map classOf = [d, c].map classOf := by
        simp only [List.map_cons, List.map_nil, same.classOf_eq]
      exact iban_of_stretch hclass place
        (spelledNumber_exchanged same other) hvalid hvalue htyped

/-- A check digit that is one too low, and the letters of the country the wrong
way round. -/
theorem iban_catches_slip_samples :
    iban "DE88370400440532013000" = fail "iban" .checksum
      ∧ iban "ED89370400440532013000" = fail "iban" .checksum := by
  have hvalid : iban "DE89370400440532013000" = .ok () :=
    iban_eq_ok.2 ⟨ibanShaped_iff.2 (by decide), by decide, by decide +kernel⟩
  constructor
  · refine iban_catches_slip hvalid ?_
    exact .replaced ['D', 'E', '8'] "370400440532013000".toList
      (.inl ⟨by decide, by decide⟩) (by decide : '9' ≠ '8')
  · refine iban_catches_slip hvalid ?_
    exact .exchanged [] "89370400440532013000".toList
      (.inr ⟨by decide, by decide⟩) (by decide : 'D' ≠ 'E') (.inl (by decide))

end FiatAccounts.Check

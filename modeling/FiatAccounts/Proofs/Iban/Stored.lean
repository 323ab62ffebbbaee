/-
The check of account numbers on stored text: bytes, slices and words.

A stored text is a run of bytes. It can be cut only where a character begins and
a slice of it must lie inside, bytes are subtracted only downwards, and a word
has 32 bits. Here the check is written once more with each of these steps on its
own, and a step that is not possible has no outcome. `iban?_eq` says that every
text has one and that it is the verdict of `iban`: the shape is looked at first,
and what has the shape gives no step a reason to fail.
-/
import FiatAccounts.Proofs.Iban.Shape

namespace FiatAccounts.Check.Stored

open Text Text.Utf8

-- =============================================================== steps

/-- A number that a word holds. -/
def word? (n : Nat) : Option Nat :=
  if n < UInt32.size then some n else none

/-- How far a byte is above another one. -/
def above? (base b : UInt8) : Option Nat :=
  if base ≤ b then some (b.toNat - base.toNat) else none

/-- The bytes from one place up to another. -/
def slice? (first last : Nat) (bytes : List UInt8) : Option (List UInt8) :=
  if first ≤ last ∧ last ≤ bytes.length then
    some ((bytes.take last).drop first)
  else none

/-- The bytes before a place and those from there on. -/
def cut? (place : Nat) (value : String) : Option (List UInt8 × List UInt8) :=
  if String.Pos.Raw.IsValid value ⟨place⟩ then
    some ((encode value).take place, (encode value).drop place)
  else none

-- =========================================================== the check

def isCapital (b : UInt8) : Bool :=
  65 ≤ b && b ≤ 90

def isDigit (b : UInt8) : Bool :=
  48 ≤ b && b ≤ 57

def shape? (value : String) : Option Bool := do
  let bytes := encode value
  if 5 ≤ bytes.length ∧ bytes.length ≤ 34 then
    let country ← slice? 0 2 bytes
    let check ← slice? 2 4 bytes
    let account ← slice? 4 bytes.length bytes
    some (country.all isCapital && check.all isDigit
      && account.all fun b => isCapital b || isDigit b)
  else some false

/-- The remainder after one more byte. -/
def step? (remainder : Nat) (b : UInt8) : Option Nat := do
  if isDigit b then
    let shifted ← word? (10 * remainder)
    let digit ← above? 48 b
    let sum ← word? (shifted + digit)
    some (sum % 97)
  else
    let letter ← above? 65 b
    let value ← word? (letter + 10)
    let shifted ← word? (100 * remainder)
    let sum ← word? (shifted + value)
    some (sum % 97)

def remainder? (value : String) : Option Nat := do
  let (head, tail) ← cut? 4 value
  (tail ++ head).foldlM step? 0

/-- The verdict on a stored text, if no step fails on the way to it. -/
def iban? (value : String) : Option Check :=
  if value = "" then some (fail "iban" .empty)
  else do
    let shaped ← shape? value
    let size := (encode value).length
    if !shaped then
      some (fail "iban" (.pattern "country code, check digits and BBAN"))
    else if size < 15 then some (fail "iban" (.tooShort 15 size))
    else if 34 < size then some (fail "iban" (.tooLong 34 size))
    else
      let remainder ← remainder? value
      some (if remainder ≠ 1 then fail "iban" .checksum else pass)

-- =============================================== one byte, one character

section

variable {c : Char}

/-- The byte of a character of ASCII is a capital letter if the character is. -/
theorem isCapital_toUInt8 (h : c.toNat < 128) :
    isCapital c.toUInt8 = c.isUpper := by
  rw [Bool.eq_iff_iff, isUpper_iff, isCapital, Bool.and_eq_true,
    decide_eq_true_eq, decide_eq_true_eq, UInt8.le_iff_toNat_le,
    UInt8.le_iff_toNat_le, toNat_toUInt8_of_lt h]
  rfl

/-- The byte of a character of ASCII is a digit if the character is. -/
theorem isDigit_toUInt8 (h : c.toNat < 128) :
    isDigit c.toUInt8 = c.isDigit := by
  rw [Bool.eq_iff_iff, Text.isDigit_iff, isDigit, Bool.and_eq_true,
    decide_eq_true_eq, decide_eq_true_eq, UInt8.le_iff_toNat_le,
    UInt8.le_iff_toNat_le, toNat_toUInt8_of_lt h]
  rfl

/-- Whatever shape lets through is a byte of ASCII. -/
theorem toNat_lt_of_isCapital {b : UInt8} (h : isCapital b = true) :
    b.toNat < 128 := by
  rw [isCapital, Bool.and_eq_true, decide_eq_true_eq, decide_eq_true_eq,
    UInt8.le_iff_toNat_le] at h
  exact Nat.lt_of_le_of_lt h.2 (by decide)

theorem toNat_lt_of_isDigit {b : UInt8} (h : isDigit b = true) :
    b.toNat < 128 := by
  rw [isDigit, Bool.and_eq_true, decide_eq_true_eq, decide_eq_true_eq,
    UInt8.le_iff_toNat_le] at h
  exact Nat.lt_of_le_of_lt h.2 (by decide)

/-- A remainder by 97 stays below it. -/
theorem ibanStep_lt (remainder : Nat) (c : Char) :
    ibanStep remainder c < 97 := by
  unfold ibanStep
  split <;> exact Nat.mod_lt _ (by decide)

theorem word?_eq {n : Nat} (h : n < UInt32.size) : word? n = some n :=
  if_pos h

/-- A subtraction of bytes that does not go below zero is that of the
characters' numbers. -/
theorem above?_eq {b : UInt8} (hascii : c.toNat < 128)
    (h : b.toNat ≤ c.toNat) :
    above? b c.toUInt8 = some (c.toNat - b.toNat) := by
  rw [← toNat_toUInt8_of_lt hascii] at h ⊢
  exact if_pos (UInt8.le_iff_toNat_le.2 h)

/-- Even a hundred times a remainder is far from the end of a word. -/
theorem step?_eq {remainder : Nat} (hlt : remainder < 97)
    (h : isCapitalOrDigit c = true) :
    step? remainder c.toUInt8 = some (ibanStep remainder c) := by
  have hascii := toNat_lt_of_isCapitalOrDigit h
  have hword : UInt32.size = 4294967296 := rfl
  unfold step? ibanStep
  rw [isDigit_toUInt8 hascii]
  by_cases hdigit : c.isDigit = true
  · rw [if_pos hdigit, if_pos hdigit, word?_eq (by omega),
      above?_eq (b := 48) hascii (Text.isDigit_iff.1 hdigit).1]
    simp only [Option.bind_eq_bind, Option.bind_some]
    rw [word?_eq (by omega)]
    rfl
  · have hupper := (Bool.or_eq_true _ _ ▸ h).resolve_right hdigit
    rw [if_neg hdigit, if_neg hdigit,
      above?_eq (b := 65) hascii (isUpper_iff.1 hupper).1, word?_eq (by omega)]
    simp only [Option.bind_eq_bind, Option.bind_some]
    rw [word?_eq (by omega), Option.bind_some, word?_eq (by omega)]
    rfl

end

-- ============================================================ all bytes

/-- No step fails from one remainder to the next. -/
theorem foldlM_step? {cs : List Char}
    (h : ∀ c ∈ cs, isCapitalOrDigit c = true) {remainder : Nat}
    (hlt : remainder < 97) :
    (cs.map Char.toUInt8).foldlM step? remainder
      = some (cs.foldl ibanStep remainder) := by
  induction cs generalizing remainder with
  | nil => rfl
  | cons c cs ih =>
      obtain ⟨hc, hcs⟩ := List.forall_mem_cons.1 h
      rw [List.map_cons, List.foldlM_cons, step?_eq hlt hc]
      exact ih hcs (ibanStep_lt remainder c)

/-- A text of ASCII can be cut anywhere inside. -/
theorem cut?_eq {place : Nat} {value : String} (h : IsAscii value)
    (hle : place ≤ value.toList.length) :
    cut? place value
      = some ((value.toList.take place).map Char.toUInt8,
        (value.toList.drop place).map Char.toUInt8) := by
  have hfront : IsAscii (String.ofList (value.toList.take place)) := by
    intro c hc
    rw [String.toList_ofList] at hc
    exact h c (List.mem_of_mem_take hc)
  have hsize : (String.ofList (value.toList.take place)).utf8ByteSize
      = place := by
    rw [hfront.utf8ByteSize_eq, String.length_ofList, List.length_take,
      Nat.min_eq_left hle]
  have hvalid : String.Pos.Raw.IsValid value ⟨place⟩ := by
    refine String.Pos.Raw.isValid_iff_exists_append.2
      ⟨.ofList (value.toList.take place), .ofList (value.toList.drop place),
        ?_, ?_⟩
    · rw [← String.ofList_append, List.take_append_drop, String.ofList_toList]
    · exact congrArg String.Pos.Raw.mk hsize.symm
  rw [cut?, if_pos hvalid, h.encode_eq, List.map_take, List.map_drop]

/-- On a text of the shape no step of the remainder fails, and what comes out is
the remainder of the characters. -/
theorem remainder?_eq {value : String} (h : isIbanShape value.toList = true) :
    remainder? value = some (ibanRemainder value.toList) := by
  have hcs := isCapitalOrDigit_of_shape h
  have hsize := (isIbanShape_iff.1 h).1
  rw [remainder?, cut?_eq (isAscii_of_isCapitalOrDigit hcs) (by omega)]
  simp only [Option.bind_eq_bind, Option.bind_some, ← List.map_append]
  refine foldlM_step? ?_ (by decide)
  intro c hc
  rcases List.mem_append.1 hc with hc | hc
  · exact hcs c (List.mem_of_mem_drop hc)
  · exact hcs c (List.mem_of_mem_take hc)

/-- The rules of the shape, byte by byte. -/
def Shaped (bytes : List UInt8) : Prop :=
  (∀ b ∈ bytes.take 2, isCapital b = true)
    ∧ (∀ b ∈ (bytes.drop 2).take 2, isDigit b = true)
    ∧ ∀ b ∈ bytes.drop 4, (isCapital b || isDigit b) = true

/-- They let no high byte through. -/
theorem Shaped.isAscii {value : String} (h : Shaped (encode value)) :
    IsAscii value := by
  refine isAscii_iff.2 (forall_of_parts ?_ ?_ ?_)
  · exact fun b hb => toNat_lt_of_isCapital (h.1 b hb)
  · exact fun b hb => toNat_lt_of_isDigit (h.2.1 b hb)
  · intro b hb
    rcases Bool.or_eq_true _ _ ▸ h.2.2 b hb with hcapital | hdigit
    · exact toNat_lt_of_isCapital hcapital
    · exact toNat_lt_of_isDigit hdigit

/-- On a text of ASCII they are the rules on characters. -/
theorem shaped_iff {value : String} (h : IsAscii value) :
    Shaped (encode value)
      ↔ (∀ c ∈ value.toList.take 2, c.isUpper = true)
        ∧ (∀ c ∈ (value.toList.drop 2).take 2, c.isDigit = true)
        ∧ ∀ c ∈ value.toList.drop 4, isCapitalOrDigit c = true := by
  unfold Shaped
  simp only [h.encode_eq, ← List.map_take, ← List.map_drop,
    List.forall_mem_map]
  refine and_congr ?_ (and_congr ?_ ?_)
  · refine forall₂_congr fun c hc => ?_
    rw [isCapital_toUInt8 (h c (List.mem_of_mem_take hc))]
  · refine forall₂_congr fun c hc => ?_
    rw [isDigit_toUInt8 (h c (List.mem_of_mem_drop (List.mem_of_mem_take hc)))]
  · refine forall₂_congr fun c hc => ?_
    have hc := h c (List.mem_of_mem_drop hc)
    rw [isCapital_toUInt8 hc, isDigit_toUInt8 hc]
    rfl

/-- So the shape is the same, whichever of them are asked. -/
theorem isIbanShape_iff_shaped {value : String} :
    isIbanShape value.toList = true
      ↔ (5 ≤ (encode value).length ∧ (encode value).length ≤ 34)
        ∧ Shaped (encode value) := by
  rw [← ibanShaped_iff]
  constructor
  · intro h
    exact ⟨h.size, (shaped_iff h.isAscii).2 ⟨h.country, h.check, h.account⟩⟩
  · rintro ⟨hsize, h⟩
    obtain ⟨hcountry, hcheck, haccount⟩ := (shaped_iff h.isAscii).1 h
    exact ⟨hsize, hcountry, hcheck, haccount⟩

/-- No slice of the shape lies outside, because the length is asked for first.
-/
theorem shape?_eq (value : String) :
    shape? value = some (isIbanShape value.toList) := by
  unfold shape?
  by_cases hsize : 5 ≤ (encode value).length ∧ (encode value).length ≤ 34
  · have hcountry : slice? 0 2 (encode value)
        = some ((encode value).take 2) :=
      if_pos (by omega)
    have hcheck : slice? 2 4 (encode value)
        = some (((encode value).drop 2).take 2) := by
      rw [List.take_drop]
      exact if_pos (by omega)
    have haccount : slice? 4 (encode value).length (encode value)
        = some ((encode value).drop 4) := by
      rw [slice?, if_pos (by omega), List.take_length]
    rw [if_pos hsize, hcountry, hcheck, haccount]
    refine congrArg some (Bool.eq_iff_iff.2 ?_)
    rw [isIbanShape_iff_shaped, and_iff_right hsize, Bool.and_eq_true,
      Bool.and_eq_true, List.all_eq_true, List.all_eq_true, List.all_eq_true,
      and_assoc]
    rfl
  · rw [if_neg hsize]
    refine congrArg some (Bool.eq_iff_iff.2 ?_)
    rw [isIbanShape_iff_shaped]
    exact iff_of_false nofun fun h => hsize h.1

/-- Every step is possible, and the verdict is the same. What has the shape is
not too long, so that is never the verdict. -/
theorem iban?_eq (value : String) : iban? value = some (iban value) := by
  unfold iban? iban
  by_cases hempty : value = ""
  · rw [if_pos hempty, if_pos hempty]
  rw [if_neg hempty, if_neg hempty, shape?_eq]
  simp only [Option.bind_eq_bind, Option.bind_some]
  by_cases hshape : isIbanShape value.toList = true
  · have hascii :=
      isAscii_of_isCapitalOrDigit (isCapitalOrDigit_of_shape hshape)
    have hlength : (encode value).length = value.toList.length := by
      rw [hascii.encode_eq, List.length_map]
    have hsize := (isIbanShape_iff.1 hshape).1.2
    rw [hshape, hlength, remainder?_eq hshape, if_neg (Nat.not_lt.2 hsize),
      Option.bind_some]
    simp only [Bool.not_true, Bool.false_eq_true, if_false, apply_ite some]
    rfl
  · rw [Bool.not_eq_true] at hshape
    rw [hshape]
    rfl

end FiatAccounts.Check.Stored

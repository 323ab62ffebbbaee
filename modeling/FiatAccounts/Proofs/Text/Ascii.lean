/-
Texts of ASCII, where bytes and characters are the same thing.

A rule on an account number counts and compares bytes where another looks at
characters. Both see the same as long as every character is one byte, and every
byte of any other character is high: so a rule that lets no high byte through
lets through texts of ASCII only, and may as well look at characters
(`isAscii_iff`, `IsAscii.encode_eq`), at single ones as at runs of them
(`IsAscii.eq_toUInt8_iff`, `IsAscii.take_encode_eq`). Of other texts the bytes
are at most four times the characters (`Utf8.length_encode_le`).
-/
import FiatAccounts.Text.Utf8

namespace FiatAccounts.Text

-- ========================================================== characters

section

variable {c : Char}

/-- Capital letters by their numbers. -/
theorem isUpper_iff : c.isUpper = true ↔ 65 ≤ c.toNat ∧ c.toNat ≤ 90 := by
  show decide ('A'.val ≤ c.val ∧ c.val ≤ 'Z'.val) = true ↔ _
  rw [decide_eq_true_eq, UInt32.le_iff_toNat_le, UInt32.le_iff_toNat_le]
  rfl

theorem isDigit_iff : c.isDigit = true ↔ 48 ≤ c.toNat ∧ c.toNat ≤ 57 :=
  Char.isDigit_iff_toNat

theorem not_isUpper_of_isDigit (h : c.isDigit = true) : c.isUpper = false := by
  rw [Bool.eq_false_iff, ne_eq, isUpper_iff]
  have := isDigit_iff.1 h
  omega

theorem not_isDigit_of_isUpper (h : c.isUpper = true) : c.isDigit = false := by
  rw [Bool.eq_false_iff, ne_eq, isDigit_iff]
  have := isUpper_iff.1 h
  omega

/-- A character of ASCII is one byte. -/
theorem utf8EncodeChar_of_lt (h : c.toNat < 128) :
    String.utf8EncodeChar c = [c.toUInt8] := by
  have hsize : c.utf8Size = 1 := by
    rw [Char.utf8Size_eq_one_iff, UInt32.le_iff_toNat_le]
    exact Nat.le_of_lt_succ h
  exact String.utf8EncodeChar_eq_singleton hsize

/-- The byte of a character of ASCII has the character's number. -/
theorem toNat_toUInt8_of_lt (h : c.toNat < 128) : c.toUInt8.toNat = c.toNat :=
  Nat.mod_eq_of_lt (show c.toNat < 2 ^ 8 by omega)

/-- A character of ASCII is found again in its byte. -/
theorem ofNat_toUInt8 (h : c.toNat < 128) :
    Char.ofNat c.toUInt8.toNat = c := by
  rw [toNat_toUInt8_of_lt h, Char.ofNat_toNat]

/-- The first byte of any other character is high. -/
theorem exists_high_of_le (h : 128 ≤ c.toNat) :
    ∃ b ∈ String.utf8EncodeChar c, 128 ≤ b.toNat := by
  have hlow : ¬c.val.toNat ≤ 127 := Nat.not_le.2 h
  unfold String.utf8EncodeChar
  simp only [if_neg hlow]
  split
  · exact ⟨_, List.mem_cons_self .., by simp; omega⟩
  split
  · exact ⟨_, List.mem_cons_self .., by simp; omega⟩
  · exact ⟨_, List.mem_cons_self .., by simp; omega⟩

end

-- =============================================================== texts

/-- Every character is one of ASCII. -/
def IsAscii (text : String) : Prop :=
  ∀ c ∈ text.toList, c.toNat < 128

instance (text : String) : Decidable (IsAscii text) :=
  List.decidableBAll (fun c : Char => c.toNat < 128) text.toList

variable {text : String}

namespace Utf8

/-- The bytes of a text are those of its characters, one character after the
other. -/
theorem encode_eq_flatMap (text : String) :
    encode text = text.toList.flatMap String.utf8EncodeChar := by
  unfold encode
  rw [String.toUTF8_eq_toByteArray, ← String.utf8Encode_toList]
  exact List.toList_data_toByteArray

theorem length_encode (text : String) :
    (encode text).length = text.utf8ByteSize := rfl

/-- No character takes more than four bytes. -/
theorem length_encode_le (text : String) :
    (encode text).length ≤ 4 * text.length := by
  rw [encode_eq_flatMap, ← String.length_toList]
  induction text.toList with
  | nil => exact Nat.le_refl 0
  | cons c cs ih =>
      have hc := c.utf8Size_le_four
      rw [List.flatMap_cons, List.length_append, List.length_cons,
        String.length_utf8EncodeChar]
      omega

end Utf8

open Utf8

/-- A text is one of ASCII if its bytes are, each by itself. -/
theorem isAscii_iff : IsAscii text ↔ ∀ b ∈ encode text, b.toNat < 128 := by
  rw [encode_eq_flatMap]
  constructor
  · intro h b hb
    obtain ⟨c, hc, hb⟩ := List.mem_flatMap.1 hb
    rw [utf8EncodeChar_of_lt (h c hc), List.mem_singleton] at hb
    rw [hb, toNat_toUInt8_of_lt (h c hc)]
    exact h c hc
  · intro h c hc
    refine Nat.lt_of_not_le fun hle => ?_
    obtain ⟨b, hb, hhigh⟩ := exists_high_of_le hle
    exact absurd (h b (List.mem_flatMap.2 ⟨c, hc, hb⟩)) (Nat.not_lt.2 hhigh)

/-- A text of ASCII has one byte for each character. -/
theorem IsAscii.encode_eq (h : IsAscii text) :
    encode text = text.toList.map Char.toUInt8 := by
  have hbytes : text.toList.map String.utf8EncodeChar
      = text.toList.map fun c => [c.toUInt8] :=
    List.map_congr_left fun c hc => utf8EncodeChar_of_lt (h c hc)
  rw [encode_eq_flatMap, List.flatMap_def, hbytes, ← List.flatMap_def,
    ← List.map_eq_flatMap]

/-- Its bytes are as many as its characters. -/
theorem IsAscii.utf8ByteSize_eq (h : IsAscii text) :
    text.utf8ByteSize = text.length := by
  rw [← length_encode, h.encode_eq, List.length_map, String.length_toList]

-- =============================================================== parts

/-- Runs of characters of ASCII are compared by their bytes. -/
theorem map_toUInt8_inj {cs ds : List Char} (hcs : ∀ c ∈ cs, c.toNat < 128)
    (hds : ∀ d ∈ ds, d.toNat < 128) :
    cs.map Char.toUInt8 = ds.map Char.toUInt8 ↔ cs = ds := by
  have hback {es : List Char} (h : ∀ e ∈ es, e.toNat < 128) :
      (es.map Char.toUInt8).map (fun b => Char.ofNat b.toNat) = es := by
    rw [List.map_map]
    exact (List.map_congr_left fun e he => ofNat_toUInt8 (h e he)).trans
      (List.map_id es)
  refine ⟨fun h => ?_, congrArg _⟩
  rw [← hback hcs, h, hback hds]

namespace IsAscii

variable {word : String}

/-- The first bytes are those of a word exactly if the first characters are the
word. -/
theorem take_encode_eq (h : IsAscii text) (hword : IsAscii word) (n : Nat) :
    (encode text).take n = encode word ↔ text.toList.take n = word.toList := by
  rw [h.encode_eq, hword.encode_eq, ← List.map_take]
  exact map_toUInt8_inj (fun c hc => h c (List.mem_of_mem_take hc)) hword

/-- The bytes from a place on are those of a word exactly if the characters
are. -/
theorem drop_encode_eq (h : IsAscii text) (hword : IsAscii word) (n : Nat) :
    (encode text).drop n = encode word ↔ text.toList.drop n = word.toList := by
  rw [h.encode_eq, hword.encode_eq, ← List.map_drop]
  exact map_toUInt8_inj (fun c hc => h c (List.mem_of_mem_drop hc)) hword

/-- A place holds the byte of a character exactly if it holds the character. -/
theorem getElem?_encode_eq_some (h : IsAscii text) {i : Nat} {d : Char}
    (hd : d.toNat < 128) :
    (encode text)[i]? = some d.toUInt8 ↔ text.toList[i]? = some d := by
  rw [h.encode_eq, List.getElem?_map, Option.map_eq_some_iff]
  constructor
  · rintro ⟨c, hplace, hbyte⟩
    have hc := h c (List.mem_of_getElem? hplace)
    rw [hplace, ← ofNat_toUInt8 hc, hbyte, ofNat_toUInt8 hd]
  · intro hplace
    exact ⟨d, hplace, rfl⟩

/-- A byte at a place is that of the character there. -/
theorem eq_toUInt8_iff (h : IsAscii text) {i : Nat} {b : UInt8} {d : Char}
    (hb : (encode text)[i]? = some b) (hd : d.toNat < 128) :
    b = d.toUInt8 ↔ text.toList[i]? = some d := by
  rw [← h.getElem?_encode_eq_some hd, hb, Option.some_inj]

end IsAscii

end FiatAccounts.Text

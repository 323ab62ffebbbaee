/-
The shape of a business identifier code.

The check is a chain of refusals that look at bytes by their number, and at
single places by what must not stand there. What it accepts is said here without
either, by the parts that a code is put together from (`BusinessCode`). Between
the two stands `BicRules`, which is what is left of a text when no refusal for a
pattern applies to it. The rules are about places, and the parts are what they
amount to (`bicRules_iff`).

Bytes are counted and not characters, but the rule on the characters lets
nothing but ASCII through. So what obeys both has as many characters as bytes
(`BicLettered.size_iff`).
-/
import FiatAccounts.Proofs.Iban.Shape

namespace FiatAccounts.Check

open Text

-- ============================================== classes of characters

section

variable {c : Char}

/-- The character is in one of the ranges. -/
def Among (ranges : List (Char × Char)) (c : Char) : Prop :=
  ∃ range ∈ ranges, range.1 ≤ c ∧ c ≤ range.2

/-- Ranges are tried one after the other. -/
theorem among_cons {first last : Char} {ranges : List (Char × Char)} :
    Among ((first, last) :: ranges) c
      ↔ (first.toNat ≤ c.toNat ∧ c.toNat ≤ last.toNat) ∨ Among ranges c := by
  unfold Among
  simp only [List.mem_cons, exists_eq_or_imp]
  exact Iff.rfl

theorem not_among_nil : ¬Among [] c := by
  rintro ⟨range, hmem, -⟩
  exact absurd hmem List.not_mem_nil

/-- Capital letters and digits by their numbers. -/
theorem isCapitalOrDigit_iff :
    isCapitalOrDigit c = true
      ↔ (65 ≤ c.toNat ∧ c.toNat ≤ 90) ∨ (48 ≤ c.toNat ∧ c.toNat ≤ 57) := by
  rw [isCapitalOrDigit, Bool.or_eq_true, isUpper_iff, isDigit_iff]

/-- The range from A to Z holds the letters that the check calls capital. -/
theorem among_letters : Among [('A', 'Z')] c ↔ c.isUpper = true := by
  rw [among_cons, or_iff_left not_among_nil, isUpper_iff]
  rfl

/-- The two ranges hold what the check takes for letters and digits. -/
theorem among_lettersAndDigits :
    Among [('A', 'Z'), ('0', '9')] c ↔ isCapitalOrDigit c = true := by
  rw [among_cons, among_cons, or_iff_left not_among_nil, isCapitalOrDigit_iff]
  rfl

/-- Without the digits of test codes. -/
theorem among_first :
    Among [('A', 'Z'), ('2', '9')] c
      ↔ isCapitalOrDigit c = true ∧ c ≠ '0' ∧ c ≠ '1' := by
  rw [among_cons, among_cons, or_iff_left not_among_nil, isCapitalOrDigit_iff,
    ne_eq, ne_eq, ← Char.toNat_inj, ← Char.toNat_inj]
  simp only [Char.reduceToNat]
  omega

/-- Without the letter of passive participants. -/
theorem among_last :
    Among [('A', 'N'), ('P', 'Z'), ('0', '9')] c
      ↔ isCapitalOrDigit c = true ∧ c ≠ 'O' := by
  rw [among_cons, among_cons, among_cons, or_iff_left not_among_nil,
    isCapitalOrDigit_iff, ne_eq, ← Char.toNat_inj]
  simp only [Char.reduceToNat]
  omega

end

-- ============================================================ the code

/-- What a business identifier code is put together from: six letters for the
institution and the country, the first and the last character of the location
and three for the branch, if there is one. A branch that opens with X is XXX. -/
structure BusinessCode where
  party : List Char
  first : Char
  last : Char
  branch : List Char
  party_length : party.length = 6
  party_chars : ∀ c ∈ party, Among [('A', 'Z')] c
  first_char : Among [('A', 'Z'), ('2', '9')] first
  last_char : Among [('A', 'N'), ('P', 'Z'), ('0', '9')] last
  branch_length : branch = [] ∨ branch.length = 3
  branch_chars : ∀ c ∈ branch, Among [('A', 'Z'), ('0', '9')] c
  branch_head : branch.head? = some 'X' → branch = ['X', 'X', 'X']

def BusinessCode.text (code : BusinessCode) : String :=
  String.ofList (code.party ++ code.first :: code.last :: code.branch)

-- =========================================================== the rules

/-- The rule on the characters wherever they stand. -/
def BicLettered (cs : List Char) : Prop :=
  (∀ c ∈ cs.take 6, c.isUpper = true)
    ∧ ∀ c ∈ cs.drop 6, isCapitalOrDigit c = true

/-- What is known of a text to which no refusal of a pattern applies. -/
structure BicRules (value : String) : Prop where
  size : value.utf8ByteSize = 8 ∨ value.utf8ByteSize = 11
  lettered : BicLettered value.toList
  first : value.toList[6]? ≠ some '0' ∧ value.toList[6]? ≠ some '1'
  last : value.toList[7]? ≠ some 'O'
  branch :
    value.toList[8]? = some 'X' → value.toList.drop 8 = ['X', 'X', 'X']

section

variable {value : String} {cs party branch : List Char} {first last : Char}

/-- A refusal of two runs is off when neither has a wrong element. -/
theorem not_refused_iff {α : Type} {p q : α → Bool} {xs ys : List α} :
    ¬(!xs.all p || !ys.all q) = true
      ↔ (∀ x ∈ xs, p x = true) ∧ ∀ y ∈ ys, q y = true := by
  rw [Bool.or_eq_true, not_or, Bool.not_eq_true', Bool.not_eq_true',
    Bool.not_eq_false, Bool.not_eq_false, List.all_eq_true, List.all_eq_true]

/-- The six letters in front are capital letters or digits too, so one class
holds every character. -/
theorem BicLettered.isCapitalOrDigit (h : BicLettered cs) :
    ∀ c ∈ cs, isCapitalOrDigit c = true := by
  rw [← List.take_append_drop 6 cs, List.forall_mem_append]
  exact ⟨fun c hc => isCapitalOrDigit_of_isUpper (h.1 c hc), h.2⟩

/-- A text of these letters has one byte for each character. -/
theorem BicLettered.isAscii (h : BicLettered value.toList) : IsAscii value :=
  isAscii_of_isCapitalOrDigit h.isCapitalOrDigit

/-- What stands where in a text of the four parts. -/
theorem places_of_parts (parts : cs = party ++ first :: last :: branch)
    (hparty : party.length = 6) :
    cs.take 6 = party ∧ cs.drop 6 = first :: last :: branch
      ∧ cs[6]? = some first ∧ cs[7]? = some last ∧ cs[8]? = branch.head?
      ∧ cs.drop 8 = branch := by
  have hdrop : cs.drop 6 = first :: last :: branch := by
    rw [parts, List.drop_left' hparty]
  have hplace (i : Nat) : cs[6 + i]? = (first :: last :: branch)[i]? := by
    rw [← hdrop, List.getElem?_drop]
  refine ⟨?_, hdrop, hplace 0, hplace 1, ?_, ?_⟩
  · rw [parts, List.take_left' hparty]
  · rw [List.head?_eq_getElem?]
    exact hplace 2
  · rw [← List.drop_drop (i := 2) (j := 6), hdrop]
    rfl

/-- A text of eight characters or more falls into six, one, one and the rest. -/
theorem exists_parts (h : 8 ≤ cs.length) :
    ∃ party first last branch,
      cs = party ++ first :: last :: branch ∧ party.length = 6 := by
  have hfirst : 6 < cs.length := by omega
  have hlast : 7 < cs.length := by omega
  refine ⟨cs.take 6, cs[6], cs[7], cs.drop 8, ?_, ?_⟩
  · rw [← List.drop_eq_getElem_cons hlast, ← List.drop_eq_getElem_cons hfirst,
      List.take_append_drop]
  · rw [List.length_take]
    omega

/-- The bytes are counted as characters once all of them are of ASCII. -/
theorem BicLettered.size_iff (lettered : BicLettered value.toList)
    (parts : value.toList = party ++ first :: last :: branch)
    (hparty : party.length = 6) :
    value.utf8ByteSize = 8 ∨ value.utf8ByteSize = 11
      ↔ branch = [] ∨ branch.length = 3 := by
  rw [lettered.isAscii.utf8ByteSize_eq, ← String.length_toList, parts,
    List.length_append, List.length_cons, List.length_cons, hparty,
    ← List.length_eq_zero_iff]
  omega

/-- What obeys the rules is put together from the parts that stand at the places
the rules look at. -/
theorem BicRules.exists_code (h : BicRules value) :
    ∃ code : BusinessCode, code.text = value := by
  have hsize : 8 ≤ value.toList.length := by
    have hbytes := h.size
    rw [h.lettered.isAscii.utf8ByteSize_eq, ← String.length_toList] at hbytes
    omega
  obtain ⟨party, first, last, branch, parts, hparty⟩ := exists_parts hsize
  obtain ⟨htake, hdrop, hfirst, hlast, hhead, hbranch⟩ :=
    places_of_parts parts hparty
  have hchars := h.lettered
  rw [BicLettered, htake, hdrop, List.forall_mem_cons, List.forall_mem_cons]
    at hchars
  obtain ⟨hletters, hfirstChar, hlastChar, hbranchChars⟩ := hchars
  -- the rules on the places, as rules on the parts
  have htest := h.first
  have hpassive := h.last
  have hhouse := h.branch
  rw [hfirst, ne_eq, ne_eq, Option.some_inj, Option.some_inj] at htest
  rw [hlast, ne_eq, Option.some_inj] at hpassive
  rw [hhead, hbranch] at hhouse
  refine ⟨
    { party, first, last, branch
      party_length := hparty
      party_chars := fun c hc => among_letters.2 (hletters c hc)
      first_char := among_first.2 ⟨hfirstChar, htest⟩
      last_char := among_last.2 ⟨hlastChar, hpassive⟩
      branch_length := (h.lettered.size_iff parts hparty).1 h.size
      branch_chars := fun c hc => among_lettersAndDigits.2 (hbranchChars c hc)
      branch_head := hhouse }, ?_⟩
  rw [BusinessCode.text, ← parts, String.ofList_toList]

/-- A code obeys the rules: each of them looks at a part of it and asks what is
known of that part. -/
theorem BusinessCode.rules (code : BusinessCode) : BicRules code.text := by
  have parts : code.text.toList
      = code.party ++ code.first :: code.last :: code.branch :=
    String.toList_ofList
  obtain ⟨htake, hdrop, hfirst, hlast, hhead, hbranch⟩ :=
    places_of_parts parts code.party_length
  have hfirstChar := among_first.1 code.first_char
  have hlastChar := among_last.1 code.last_char
  have lettered : BicLettered code.text.toList := by
    rw [BicLettered, htake, hdrop, List.forall_mem_cons, List.forall_mem_cons]
    exact ⟨fun c hc => among_letters.1 (code.party_chars c hc), hfirstChar.1,
      hlastChar.1,
      fun c hc => among_lettersAndDigits.1 (code.branch_chars c hc)⟩
  refine
    { size := (lettered.size_iff parts code.party_length).2 code.branch_length
      lettered
      first := ?_
      last := ?_
      branch := ?_ }
  · rw [hfirst, ne_eq, ne_eq, Option.some_inj, Option.some_inj]
    exact hfirstChar.2
  · rw [hlast, ne_eq, Option.some_inj]
    exact hlastChar.2
  · rw [hhead, hbranch]
    exact code.branch_head

/-- The rules on the places are what makes a text a code. -/
theorem bicRules_iff :
    BicRules value ↔ ∃ code : BusinessCode, code.text = value := by
  constructor
  · exact BicRules.exists_code
  · rintro ⟨code, rfl⟩
    exact code.rules

end

end FiatAccounts.Check

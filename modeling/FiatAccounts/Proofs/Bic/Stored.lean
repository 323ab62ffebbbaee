/-
The check of business identifier codes on stored text.

As for account numbers, the check is written once more with each look at a byte
and each slice on its own, and one that is not inside the bytes has no outcome.
All of them are made before anything is decided, so none is spared by an early
refusal. `bic?_eq` says that every text has an outcome and that it is the
verdict of `bic`: the bytes are counted first, and as many as there have to be
are enough for every look, whatever characters they make up.
-/
import FiatAccounts.Check.Bic
import FiatAccounts.Proofs.Bic.Shape
import FiatAccounts.Proofs.Iban.Stored
import Mathlib.Logic.Basic

namespace FiatAccounts.Check.Stored

open Text Text.Utf8

-- =========================================================== the check

/-- A branch that opens with X and is not XXX. Only the long form has the bytes
to look at. -/
def strayBranch? (bytes : List UInt8) : Option Bool := do
  if bytes.length = 11 then
    let head ← bytes[8]?
    let branch ← slice? 8 bytes.length bytes
    some (head = 'X'.toUInt8 ∧ branch ≠ encode "XXX")
  else some false

/-- The verdict on a stored text, if every look on the way to it is inside the
bytes. -/
def bic? (value : String) : Option Check :=
  let bytes := encode value
  if value = "" then some (fail "bic" .empty)
  else if bytes.length ≠ 8 ∧ bytes.length ≠ 11 then
    some (fail "bic" (.pattern "8 or 11 characters"))
  else do
    let party ← slice? 0 6 bytes
    let rest ← slice? 6 bytes.length bytes
    let first ← bytes[6]?
    let last ← bytes[7]?
    let stray ← strayBranch? bytes
    some <|
      if !party.all isCapital
          || !rest.all fun b => isCapital b || isDigit b then
        fail "bic"
          (.pattern "institution, country, location and optional branch code")
      else if first = '0'.toUInt8 ∨ first = '1'.toUInt8 then
        fail "bic" (.pattern "location code not starting with 0 or 1")
      else if last = 'O'.toUInt8 then
        fail "bic" (.pattern "location code not ending with O")
      else if stray then
        fail "bic" (.pattern "branch code starting with X to be XXX")
      else if bytes.take 4 = encode "REVO" then fail "bic" (.notAllowed value)
      else pass

-- ================================================= bytes of characters

section

variable {cs : List Char}

/-- Bytes of ASCII are capital letters if their characters are. -/
theorem forall_isCapital (h : ∀ c ∈ cs, c.toNat < 128) :
    (∀ b ∈ cs.map Char.toUInt8, isCapital b = true)
      ↔ ∀ c ∈ cs, c.isUpper = true := by
  rw [List.forall_mem_map]
  refine forall₂_congr fun c hc => ?_
  rw [isCapital_toUInt8 (h c hc)]

/-- Bytes of ASCII are capital letters or digits if their characters are. -/
theorem forall_isCapitalOrDigit (h : ∀ c ∈ cs, c.toNat < 128) :
    (∀ b ∈ cs.map Char.toUInt8, (isCapital b || isDigit b) = true)
      ↔ ∀ c ∈ cs, isCapitalOrDigit c = true := by
  rw [List.forall_mem_map]
  refine forall₂_congr fun c hc => ?_
  rw [isCapital_toUInt8 (h c hc), isDigit_toUInt8 (h c hc)]
  rfl

end

-- ========================================================= the verdict

section

variable {value : String} {bytes : List UInt8}

/-- The rule on the bytes wherever they stand. -/
def Lettered (bytes : List UInt8) : Prop :=
  (∀ b ∈ bytes.take 6, isCapital b = true)
    ∧ ∀ b ∈ bytes.drop 6, (isCapital b || isDigit b) = true

/-- Bytes of these classes are below 128, so none is a part of a longer
character. -/
theorem Lettered.isAscii (h : Lettered (encode value)) : IsAscii value := by
  rw [isAscii_iff, ← List.take_append_drop 6 (encode value),
    List.forall_mem_append]
  refine ⟨fun b hb => toNat_lt_of_isCapital (h.1 b hb), ?_⟩
  intro b hb
  rcases Bool.or_eq_true _ _ ▸ h.2 b hb with hcapital | hdigit
  · exact toNat_lt_of_isCapital hcapital
  · exact toNat_lt_of_isDigit hdigit

/-- Whether bytes or characters are asked, no other text than one of ASCII obeys
the rule. -/
theorem lettered_iff : Lettered (encode value) ↔ BicLettered value.toList := by
  have hsame (h : IsAscii value) :
      Lettered (encode value) ↔ BicLettered value.toList := by
    rw [Lettered, h.encode_eq, ← List.map_take, ← List.map_drop,
      forall_isCapital fun c hc => h c (List.mem_of_mem_take hc),
      forall_isCapitalOrDigit fun c hc => h c (List.mem_of_mem_drop hc)]
    rfl
  exact ⟨fun h => (hsame h.isAscii).1 h, fun h => (hsame h.isAscii).2 h⟩

/-- A slice that ends with the bytes is what is left of them. -/
theorem slice?_to_end {first : Nat} (h : first ≤ bytes.length) :
    slice? first bytes.length bytes = some (bytes.drop first) := by
  rw [slice?, if_pos ⟨h, Nat.le_refl _⟩, List.take_length]

/-- The bytes of either form are enough for every look at the branch. -/
theorem strayBranch?_eq (h : bytes.length = 8 ∨ bytes.length = 11) :
    strayBranch? bytes
      = some (decide (bytes[8]? = some 'X'.toUInt8
          ∧ bytes.drop 8 ≠ encode "XXX")) := by
  unfold strayBranch?
  rcases h with hshort | hlong
  · rw [if_neg (by omega), List.getElem?_eq_none (by omega)]
    simp
  · rw [if_pos hlong, List.getElem?_eq_getElem (by omega),
      slice?_to_end (by omega)]
    simp

/-- Every look is inside the bytes, and the verdict is the same. -/
theorem bic?_eq (value : String) : bic? value = some (bic value) := by
  unfold bic? bic
  dsimp only
  by_cases hempty : value = ""
  · rw [if_pos hempty, if_pos hempty]
  rw [if_neg hempty, if_neg hempty, ← length_encode]
  by_cases hsize : (encode value).length ≠ 8 ∧ (encode value).length ≠ 11
  · rw [if_pos hsize, if_pos hsize]
  rw [if_neg hsize, if_neg hsize]
  have hlength : (encode value).length = 8 ∨ (encode value).length = 11 := by
    omega
  have hparty : slice? 0 6 (encode value) = some ((encode value).take 6) :=
    if_pos (by omega)
  have hrest : slice? 6 (encode value).length (encode value)
      = some ((encode value).drop 6) :=
    slice?_to_end (by omega)
  obtain ⟨first, hfirst⟩ : ∃ first, (encode value)[6]? = some first :=
    ⟨_, List.getElem?_eq_getElem (by omega)⟩
  obtain ⟨last, hlast⟩ : ∃ last, (encode value)[7]? = some last :=
    ⟨_, List.getElem?_eq_getElem (by omega)⟩
  rw [hparty, hrest, hfirst, hlast, strayBranch?_eq hlength]
  simp only [Option.bind_eq_bind, Option.bind_some]
  refine congrArg some ?_
  -- behind the rule on the characters every byte is that of a character
  by_cases hlettered : BicLettered value.toList
  · have hascii := hlettered.isAscii
    rw [if_neg (not_refused_iff.2 (lettered_iff.2 hlettered)),
      if_neg (not_refused_iff.2 hlettered)]
    refine if_congr ?_ rfl (if_congr ?_ rfl (if_congr ?_ rfl
      (if_congr ?_ rfl rfl)))
    · rw [hascii.eq_toUInt8_iff hfirst (by decide),
        hascii.eq_toUInt8_iff hfirst (by decide)]
    · rw [hascii.eq_toUInt8_iff hlast (by decide)]
    · rw [decide_eq_true_iff, hascii.getElem?_encode_eq_some (by decide), ne_eq,
        hascii.drop_encode_eq (by decide)]
      rfl
    · rw [hascii.take_encode_eq (by decide)]
      rfl
  · have hbytes : ¬Lettered (encode value) := fun h =>
      hlettered (lettered_iff.1 h)
    rw [if_pos (of_not_not fun h => hbytes (not_refused_iff.1 h)),
      if_pos (of_not_not fun h => hlettered (not_refused_iff.1 h))]

end

end FiatAccounts.Check.Stored

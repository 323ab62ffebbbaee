/-
Which texts are e-mail addresses and phone numbers.

The checks cut a text up and look at the pieces: an e-mail address at its first
at sign and at the last dot behind it, a phone number behind its plus sign. What
they accept is said here without cutting, by what an address and a number are
put together from (`EmailAddress`, `PhoneNumber`).

A text that can be put together can be cut in no other way. There is no at sign
before the one that ends the local part and no dot behind the one that opens the
top level domain, because neither is a character of those parts. So the first at
sign and the last dot are where they have to be, and an address has one reading
only (`EmailAddress.text_injective`).

A text with an at sign is taken for an e-mail address and any other for a phone
number. Nothing is lost by that, since every address has an at sign and no
number does.
-/
import FiatAccounts.Proofs.Check.Passed

namespace FiatAccounts.Check

-- ============================================== cutting at a character

section

variable {c : Char} {cs before after : List Char}

/-- A text is cut at a character that has not occurred before it. -/
theorem splitFirst?_append (first : c ∉ before) :
    splitFirst? c (before ++ c :: after) = some (before, after) := by
  induction before with
  | nil => exact if_pos rfl
  | cons d before ih =>
      rw [List.mem_cons, not_or] at first
      rw [List.cons_append, splitFirst?, if_neg (Ne.symm first.1), ih first.2]
      rfl

/-- What a cut gives makes up the text again, and the character does not occur
in front of the cut. -/
theorem of_splitFirst? (h : splitFirst? c cs = some (before, after)) :
    cs = before ++ c :: after ∧ c ∉ before := by
  induction cs generalizing before with
  | nil => cases h
  | cons d rest ih =>
      unfold splitFirst? at h
      split at h
      next hd =>
        cases h
        exact ⟨congrArg (List.cons · after) hd, List.not_mem_nil⟩
      next hd =>
        obtain ⟨⟨before, after⟩, hsplit, hparts⟩ := Option.map_eq_some_iff.1 h
        cases hparts
        obtain ⟨rfl, hfirst⟩ := ih hsplit
        refine ⟨rfl, ?_⟩
        rw [List.mem_cons, not_or]
        exact ⟨Ne.symm hd, hfirst⟩

/-- A text is cut at the one occurrence that has none before it. -/
theorem splitFirst?_eq_some :
    splitFirst? c cs = some (before, after)
      ↔ cs = before ++ c :: after ∧ c ∉ before := by
  constructor
  · exact of_splitFirst?
  · rintro ⟨rfl, first⟩
    exact splitFirst?_append first

/-- The last occurrence is the first one from behind. -/
theorem splitLast?_eq_some :
    splitLast? c cs = some (before, after)
      ↔ cs = before ++ c :: after ∧ c ∉ after := by
  have hparts : splitLast? c cs = some (before, after)
      ↔ splitFirst? c cs.reverse = some (after.reverse, before.reverse) := by
    unfold splitLast?
    rw [Option.map_eq_some_iff]
    constructor
    · rintro ⟨⟨_, _⟩, hsplit, hparts⟩
      cases hparts
      rw [List.reverse_reverse, List.reverse_reverse]
      exact hsplit
    · intro h
      refine ⟨_, h, ?_⟩
      simp only [List.reverse_reverse]
  rw [hparts, splitFirst?_eq_some, List.reverse_eq_iff, List.mem_reverse]
  simp

end

-- ==================================================== e-mail addresses

/-- What an e-mail address is put together from. Letters and digits are those of
ASCII. -/
@[ext]
structure EmailAddress where
  localPart : List Char
  host : List Char
  tld : List Char
  local_ne_nil : localPart ≠ []
  local_chars : ∀ c ∈ localPart, c.isAlphanum = true ∨ c ∈ ['+', '_', '.', '-']
  host_ne_nil : host ≠ []
  host_chars : ∀ c ∈ host, c.isAlphanum = true ∨ c ∈ ['.', '-']
  two_le_tld : 2 ≤ tld.length
  tld_chars : ∀ c ∈ tld, c.isAlpha = true

namespace EmailAddress

/-- The part behind the at sign. -/
def domain (a : EmailAddress) : List Char :=
  a.host ++ '.' :: a.tld

def text (a : EmailAddress) : String :=
  String.ofList (a.localPart ++ '@' :: a.domain)

theorem toList_text (a : EmailAddress) :
    a.text.toList = a.localPart ++ '@' :: a.domain :=
  String.toList_ofList

/-- An address has an at sign, so it is not empty. -/
theorem at_mem_text (a : EmailAddress) : '@' ∈ a.text.toList := by
  rw [a.toList_text]
  exact List.mem_append_right _ List.mem_cons_self

/-- The at sign is none of the characters of a local part. -/
theorem at_not_mem (a : EmailAddress) : '@' ∉ a.localPart :=
  fun h => absurd (a.local_chars '@' h) (by decide)

/-- A top level is of letters only. -/
theorem dot_not_mem (a : EmailAddress) : '.' ∉ a.tld :=
  fun h => absurd (a.tld_chars '.' h) (by decide)

/-- Its first at sign is the one that ends the local part. -/
theorem splitFirst?_text (a : EmailAddress) :
    splitFirst? '@' a.text.toList = some (a.localPart, a.domain) :=
  splitFirst?_eq_some.2 ⟨a.toList_text, a.at_not_mem⟩

/-- The last dot of the domain is the one that opens the top level. -/
theorem splitLast?_domain (a : EmailAddress) :
    splitLast? '.' a.domain = some (a.host, a.tld) :=
  splitLast?_eq_some.2 ⟨rfl, a.dot_not_mem⟩

/-- An address has one reading only. -/
theorem text_injective : Function.Injective text := by
  intro a b h
  have hparts := a.splitFirst?_text
  rw [h, b.splitFirst?_text, Option.some.injEq, Prod.mk.injEq] at hparts
  obtain ⟨hlocal, hdomain⟩ := hparts
  have hlevels := a.splitLast?_domain
  rw [← hdomain, b.splitLast?_domain, Option.some.injEq,
    Prod.mk.injEq] at hlevels
  exact EmailAddress.ext hlocal.symm hlevels.1.symm hlevels.2.symm

end EmailAddress

/-- The characters of a local part, as the check lists them. -/
theorem isLocalChar_iff {c : Char} :
    isLocalChar c = true
      ↔ c.isAlphanum = true ∨ c ∈ ['+', '_', '.', '-'] := by
  simp [isLocalChar, or_assoc]

/-- The characters of a host, as the check lists them. -/
theorem isHostChar_iff {c : Char} :
    isHostChar c = true ↔ c.isAlphanum = true ∨ c ∈ ['.', '-'] := by
  simp [isHostChar, or_assoc]

/-- What is asked of the pieces of a text. -/
theorem pieces_iff {localPart host tld : List Char} :
    (!localPart.isEmpty && localPart.all isLocalChar && !host.isEmpty
        && host.all isHostChar
        && 2 ≤ tld.length && tld.all Char.isAlpha) = true
      ↔ localPart ≠ []
        ∧ (∀ c ∈ localPart, c.isAlphanum = true ∨ c ∈ ['+', '_', '.', '-'])
        ∧ host ≠ []
        ∧ (∀ c ∈ host, c.isAlphanum = true ∨ c ∈ ['.', '-'])
        ∧ 2 ≤ tld.length
        ∧ ∀ c ∈ tld, c.isAlpha = true := by
  simp only [Bool.and_eq_true, Bool.not_eq_true', List.isEmpty_eq_false_iff,
    List.all_eq_true, isLocalChar_iff, isHostChar_iff, decide_eq_true_eq,
    and_assoc]

/-- What is asked of the pieces makes them the parts of an address. -/
theorem isEmail_iff {value : String} :
    isEmail value.toList = true
      ↔ ∃ address : EmailAddress, address.text = value := by
  constructor
  · intro h
    unfold isEmail at h
    split at h
    case h_1 => cases h
    case h_2 localPart domain hlocal =>
      split at h
      case h_1 => cases h
      case h_2 host tld hhost =>
        obtain ⟨hlocal_ne, hlocal_chars, hhost_ne, hhost_chars, htwo, htld⟩ :=
          pieces_iff.1 h
        refine ⟨⟨localPart, host, tld, hlocal_ne, hlocal_chars, hhost_ne,
          hhost_chars, htwo, htld⟩, ?_⟩
        -- the two cuts, undone
        rw [← String.toList_inj, EmailAddress.toList_text,
          (of_splitFirst? hlocal).1, (splitLast?_eq_some.1 hhost).1]
        rfl
  · rintro ⟨address, rfl⟩
    unfold isEmail
    rw [address.splitFirst?_text]
    dsimp only
    rw [address.splitLast?_domain]
    exact pieces_iff.2 ⟨address.local_ne_nil, address.local_chars,
      address.host_ne_nil, address.host_chars, address.two_le_tld,
      address.tld_chars⟩

-- ======================================================= phone numbers

/-- What a phone number is put together from: perhaps a plus sign, then digits
and what stands between them. -/
structure PhoneNumber where
  plus : Bool
  rest : List Char
  chars : ∀ c ∈ rest, c.isDigit = true ∨ c ∈ [' ', '-']
  digits : 6 ≤ rest.countP Char.isDigit ∧ rest.countP Char.isDigit ≤ 15

namespace PhoneNumber

def text (n : PhoneNumber) : String :=
  String.ofList (if n.plus then '+' :: n.rest else n.rest)

/-- A plus sign stands in front of a number or nowhere. -/
theorem plus_not_mem (n : PhoneNumber) : '+' ∉ n.rest :=
  fun h => absurd (n.chars '+' h) (by decide)

/-- No phone number is taken for an e-mail address. -/
theorem at_not_mem_text (n : PhoneNumber) : '@' ∉ n.text.toList := by
  have hrest : '@' ∉ n.rest := fun h => absurd (n.chars '@' h) (by decide)
  unfold text
  rw [String.toList_ofList]
  split
  · rw [List.mem_cons, not_or]
    exact ⟨by decide, hrest⟩
  · exact hrest

end PhoneNumber

/-- Behind the plus sign there are digits, spaces and hyphens, and only the
digits are counted. -/
theorem isLocalPhone_iff {cs : List Char} :
    isLocalPhone cs = true
      ↔ (∀ c ∈ cs, c.isDigit = true ∨ c ∈ [' ', '-'])
        ∧ 6 ≤ cs.countP Char.isDigit ∧ cs.countP Char.isDigit ≤ 15 := by
  simp [isLocalPhone, and_assoc, or_assoc]

/-- A text passes exactly if it is the text of a phone number. -/
theorem isPhone_iff {value : String} :
    isPhone value.toList = true
      ↔ ∃ number : PhoneNumber, number.text = value := by
  constructor
  · intro h
    unfold isPhone at h
    split at h
    case h_1 rest hvalue =>
      obtain ⟨hchars, hdigits⟩ := isLocalPhone_iff.1 h
      refine ⟨⟨true, rest, hchars, hdigits⟩, ?_⟩
      rw [← String.ofList_toList (s := value), hvalue]
      rfl
    case h_2 =>
      obtain ⟨hchars, hdigits⟩ := isLocalPhone_iff.1 h
      exact ⟨⟨false, value.toList, hchars, hdigits⟩, String.ofList_toList⟩
  · rintro ⟨number, rfl⟩
    have hrest := isLocalPhone_iff.2 ⟨number.chars, number.digits⟩
    unfold PhoneNumber.text
    rw [String.toList_ofList]
    split
    · exact hrest
    · unfold isPhone
      split
      case h_1 rest hplus =>
        -- the plus sign would be one of the characters behind the plus sign
        have hmem := hplus ▸ number.plus_not_mem
        exact absurd List.mem_cons_self hmem
      case h_2 => exact hrest

-- ============================================================ verdicts

section

variable {field value : String}

/-- An e-mail address passes if it is one and not too long. No length has to be
asked of it below, since an address has an at sign. -/
theorem email_eq_ok :
    email field value = .ok ()
      ↔ value.length ≤ 100
        ∧ ∃ address : EmailAddress, address.text = value := by
  unfold email
  rw [bind_unit_eq_ok, requiredText_eq_ok_of_pos Nat.one_pos, demand_eq_ok,
    isEmail_iff]
  constructor
  · rintro ⟨⟨-, hlength⟩, haddress⟩
    exact ⟨hlength, haddress⟩
  · rintro ⟨hlength, address, rfl⟩
    have hpos := List.length_pos_of_mem address.at_mem_text
    rw [String.length_toList] at hpos
    exact ⟨⟨hpos, hlength⟩, address, rfl⟩

/-- A phone number passes if it is one. The refusal of an empty text adds
nothing to that. -/
theorem phone_eq_ok :
    phone field value = .ok ()
      ↔ ∃ number : PhoneNumber, number.text = value := by
  unfold phone
  rw [refuse_eq_ok, demand_eq_ok, ← isPhone_iff]
  refine and_iff_right_of_imp ?_
  rintro hphone rfl
  exact absurd hphone (by decide)

/-- What the at sign decides is what the text is. -/
theorem emailOrPhone_eq_ok :
    emailOrPhone field value = .ok ()
      ↔ email field value = .ok () ∨ phone field value = .ok () := by
  unfold emailOrPhone
  rw [refuse_eq_ok]
  by_cases hat : '@' ∈ value.toList
  · have hphone : phone field value ≠ .ok () := by
      intro h
      obtain ⟨number, rfl⟩ := phone_eq_ok.1 h
      exact number.at_not_mem_text hat
    rw [if_pos (List.contains_iff_mem.2 hat), or_iff_left hphone]
    exact and_iff_right_of_imp email_ne_empty
  · have hemail : email field value ≠ .ok () := by
      intro h
      obtain ⟨-, address, rfl⟩ := email_eq_ok.1 h
      exact hat address.at_mem_text
    have hcontains : ¬value.toList.contains '@' = true :=
      fun h => hat (List.contains_iff_mem.1 h)
    rw [if_neg hcontains, demand_eq_ok, or_iff_right hemail]
    unfold phone
    rw [refuse_eq_ok, demand_eq_ok]

end

/-- The checks of contacts accept the texts of e-mail addresses of up to 100
characters and of phone numbers, and no others. An address is read in one way
only. Where either will do, what one of the two checks accepts is accepted. -/
theorem contacts_exact (field value : String) :
    (email field value = .ok ()
        ↔ value.length ≤ 100
          ∧ ∃ address : EmailAddress, address.text = value)
      ∧ Function.Injective EmailAddress.text
      ∧ (phone field value = .ok ()
        ↔ ∃ number : PhoneNumber, number.text = value)
      ∧ (emailOrPhone field value = .ok ()
        ↔ email field value = .ok () ∨ phone field value = .ok ()) :=
  ⟨email_eq_ok, EmailAddress.text_injective, phone_eq_ok, emailOrPhone_eq_ok⟩

end FiatAccounts.Check

/-
What it takes to make a payload for transfers inside a country.

There are three kinds of them, which a rail and a condition tell apart. All
three rails reach every country and settle every currency, and all three kinds
ask the catalog which fields have to be there. So they make the same payloads of
a bank account and refuse the others for the same reason, a cash deposit as long
as it is on no conditions (`BankDetails.domestic`).

The payload is made if the account is in order and complete. What is in order
does not depend on the country (`BankSound`). What is complete does: each field
that the country requires is there (`BankDetails.Complete`). It is looked at
last, so if nothing else is wrong the first field that is missing is named.
-/
import FiatAccounts.Proofs.Instrument.Bank
import FiatAccounts.Proofs.Payload.Verified

namespace FiatAccounts

-- ========================================================== the fields

namespace BankDetails

variable {d : BankDetails}

/-- The lengths of the fields, of those that may be absent if they are there. -/
theorem checkBounds_eq_ok :
    d.checkBounds = .ok ()
      ↔ (∀ text ∈ d.holderName, 2 ≤ text.length ∧ text.length ≤ 100)
        ∧ (∀ text ∈ d.holderId, 1 ≤ text.length ∧ text.length ≤ 50)
        ∧ (∀ text ∈ d.bankName, 1 ≤ text.length ∧ text.length ≤ 100)
        ∧ (∀ text ∈ d.bankId, 1 ≤ text.length ∧ text.length ≤ 50)
        ∧ (∀ text ∈ d.branchId, 1 ≤ text.length ∧ text.length ≤ 30)
        ∧ (1 ≤ d.accountNr.length ∧ d.accountNr.length ≤ 30)
        ∧ ∀ text ∈ d.nationalAccountId,
          1 ≤ text.length ∧ text.length ≤ 50 := by
  unfold checkBounds
  simp only [bind_unit_eq_ok,
    Check.requiredText_eq_ok_of_pos Nat.one_pos,
    Check.optionalText_eq_ok_of_pos Nat.one_pos,
    Check.optionalText_eq_ok_of_pos Nat.two_pos]

/-- The country requires the field, and it is not there. -/
def Misses (d : BankDetails) (field : BankField) : Prop :=
  field.isRequired d.country = true ∧ d.value? field = none

/-- Every field that the country requires is there. -/
def Complete (d : BankDetails) : Prop :=
  ∀ field, ¬d.Misses field

/-- Of the missing fields, it comes first in the order of the catalog. -/
def MissesFirst (d : BankDetails) (field : BankField) : Prop :=
  d.Misses field ∧ ∃ before after, BankField.all = before ++ field :: after
    ∧ ∀ other ∈ before, ¬d.Misses other

instance (field : BankField) : Decidable (d.Misses field) :=
  inferInstanceAs (Decidable (_ ∧ _))

/-- The first field that is missing is what a search through all fields stops
at. -/
theorem missesFirst_iff {field : BankField} :
    d.MissesFirst field
      ↔ BankField.all.find? (fun other => d.Misses other) = some field := by
  rw [List.find?_eq_some_iff_append, decide_eq_true_iff]
  simp only [Bool.not_eq_true', decide_eq_false_iff_not]
  exact Iff.rfl

/-- What is not complete misses a field first. -/
theorem exists_missesFirst (h : ¬d.Complete) :
    ∃ field, d.MissesFirst field := by
  cases hfound : BankField.all.find? fun field => d.Misses field with
  | some field => exact ⟨field, missesFirst_iff.2 hfound⟩
  | none =>
      refine absurd (fun field hmisses => ?_) h
      have hpresent := List.find?_eq_none.1 hfound field field.mem_all
      exact hpresent (decide_eq_true hmisses)

/-- To look among the required fields for an absent one is to look among all
fields for a missing one. -/
theorem find?_required :
    (BankField.required d.country).find? (fun field => (d.value? field).isNone)
      = BankField.all.find? fun field => d.Misses field := by
  unfold BankField.required
  rw [List.find?_filter]
  refine congrArg (List.find? · BankField.all) (funext fun field => ?_)
  exact decide_eq_decide.2 (and_congr_right' Option.isNone_iff_eq_none)

/-- The first missing field is the one that is reported. -/
theorem checkRequired_of_missesFirst {field : BankField}
    (h : d.MissesFirst field) :
    d.checkRequired = Check.fail field.name .missing := by
  have hfound := find?_required.trans (missesFirst_iff.1 h)
  unfold checkRequired
  dsimp only
  rw [hfound]

/-- What the country requires is there exactly if the account is complete. -/
theorem checkRequired_eq_ok : d.checkRequired = .ok () ↔ d.Complete := by
  constructor
  · intro h field hmisses
    exact required_present h hmisses.1 hmisses.2
  · intro complete
    unfold checkRequired
    dsimp only
    split
    next field hfound =>
      have hrequired := List.mem_of_find?_eq_some hfound
      have habsent := List.find?_some hfound
      rw [BankField.mem_required] at hrequired
      rw [Option.isNone_iff_eq_none] at habsent
      exact absurd ⟨hrequired, habsent⟩ (complete field)
    next => rfl

end BankDetails

-- ======================================================== the payloads

/-- A deposit on no conditions asks for what the country requires, and for
nothing else. -/
theorem CashDeposit.check_none (d : BankDetails) :
    CashDeposit.check ⟨d, none⟩ = d.checkRequired := by
  show (d.checkRequired >>= fun _ => pure ()) = d.checkRequired
  exact bind_pure_unit

/-- The instruments of a bank account for transfers inside its country. -/
def BankDetails.domestic (d : BankDetails) : List Instrument :=
  [.countryBased (.bank (.nationalBank d)),
   .countryBased (.bank (.sameBank d)),
   .countryBased (.bank (.cashDeposit ⟨d, none⟩))]

/-- An id, a salt and a bank account that are in order, whatever the country
requires. -/
structure BankSound (id : String) (salt : List UInt8) (d : BankDetails) :
    Prop where
  id : 1 ≤ id.length ∧ id.length ≤ 50
  salt : 1 ≤ salt.length ∧ salt.length ≤ 32
  country : Country.isKnown d.country = true
  currency : Currency.isKnown d.currency = true
  holderName : ∀ text ∈ d.holderName, 2 ≤ text.length ∧ text.length ≤ 100
  holderId : ∀ text ∈ d.holderId, 1 ≤ text.length ∧ text.length ≤ 50
  bankName : ∀ text ∈ d.bankName, 1 ≤ text.length ∧ text.length ≤ 100
  bankId : ∀ text ∈ d.bankId, 1 ≤ text.length ∧ text.length ≤ 50
  branchId : ∀ text ∈ d.branchId, 1 ≤ text.length ∧ text.length ≤ 30
  accountNr : 1 ≤ d.accountNr.length ∧ d.accountNr.length ≤ 30
  nationalAccountId : ∀ text ∈ d.nationalAccountId,
    1 ≤ text.length ∧ text.length ≤ 50

section

variable {id : String} {salt : List UInt8} {d : BankDetails}
  {i j : Instrument}

/-- Three kinds of instrument, and one way to check them. -/
theorem BankDetails.checks_of_domestic (h : i ∈ d.domestic) :
    i.checkFirst = Check.pass
      ∧ Payload.checkProfile i.profile
        = Payload.checkProfile
          (d.profile .nationalBank (.selected d.currency) [])
      ∧ i.verifyFields = d.checkRequired.raise := by
  unfold domestic at h
  simp only [List.mem_cons, List.not_mem_nil, or_false] at h
  rcases h with rfl | rfl | rfl
  · exact ⟨rfl, rfl, rfl⟩
  · exact ⟨rfl, rfl, rfl⟩
  · exact ⟨rfl, rfl, congrArg Check.raise (CashDeposit.check_none d)⟩

/-- The rails reach every country and settle every currency. -/
theorem Payload.checkProfile_bank :
    checkProfile (d.profile .nationalBank (.selected d.currency) []) = .ok ()
      ↔ Country.isKnown d.country = true ∧ Currency.isKnown d.currency = true
        ∧ d.checkBounds = .ok () := by
  have hcountry : checkCountry .nationalBank d.country = .ok ()
      ↔ Country.isKnown d.country = true := by
    -- the rail covers everything, so it asks the catalog a second time
    rw [checkCountry_eq_ok, ← Rail.supportsCountry_iff]
    exact and_self_iff
  have hcurrency : checkCurrency .nationalBank (.selected d.currency) = .ok ()
      ↔ Currency.isKnown d.currency = true := by
    rw [checkCurrency_eq_ok]
    show ([d.currency] ≠ [] ∧ ∀ code ∈ [d.currency], _) ↔ _
    rw [and_iff_right (List.cons_ne_nil _ _), List.forall_mem_singleton,
      ← Rail.supportsCurrency_iff]
    exact and_self_iff
  rw [checkProfile_eq_ok, ← hcountry, ← hcurrency]
  constructor
  · rintro ⟨hcountry, hcurrency, hbank⟩
    exact ⟨hcountry _ rfl, hcurrency _ rfl, hbank _ rfl⟩
  · rintro ⟨hcountry, hcurrency, hbank⟩
    refine ⟨?_, ?_, ?_⟩
    · rintro _ ⟨⟩
      exact hcountry
    · rintro _ ⟨⟩
      exact hcurrency
    · rintro _ ⟨⟩
      exact hbank

/-- What is in order passes every check but the last. -/
theorem bankSound_iff :
    BankSound id salt d
      ↔ PayloadCore.check ⟨id, salt⟩ = .ok ()
        ∧ Payload.checkProfile
          (d.profile .nationalBank (.selected d.currency) []) = .ok () := by
  rw [PayloadCore.check_eq_ok, Payload.checkProfile_bank,
    BankDetails.checkBounds_eq_ok]
  constructor
  · intro h
    exact ⟨⟨h.id, h.salt⟩, h.country, h.currency, h.holderName, h.holderId,
      h.bankName, h.bankId, h.branchId, h.accountNr, h.nationalAccountId⟩
  · rintro ⟨⟨hid, hsalt⟩, hcountry, hcurrency, hholderName, hholderId,
      hbankName, hbankId, hbranchId, haccountNr, hnationalAccountId⟩
    exact ⟨hid, hsalt, hcountry, hcurrency, hholderName, hholderId, hbankName,
      hbankId, hbranchId, haccountNr, hnationalAccountId⟩

/-- A payload of any of the three kinds is made if the account is in order and
complete. -/
theorem exists_create_domestic_iff (h : i ∈ d.domestic) :
    (∃ p, Payload.create id salt i = .ok p)
      ↔ BankSound id salt d ∧ d.Complete := by
  obtain ⟨-, hprofile, hfields⟩ := BankDetails.checks_of_domestic h
  rw [Payload.exists_create_iff, Payload.verify_eq_ok, hprofile, hfields,
    Check.raise_eq_ok, BankDetails.checkRequired_eq_ok, bankSound_iff,
    and_assoc]

/-- What is in order but not complete is refused for its first missing
field. -/
theorem exists_create_domestic_eq_error (h : i ∈ d.domestic)
    (sound : BankSound id salt d) (incomplete : ¬d.Complete) :
    ∃ field, d.MissesFirst field
      ∧ Payload.create id salt i = .error (.invalid field.name .missing) := by
  obtain ⟨hfirst, hprofile, hfields⟩ := BankDetails.checks_of_domestic h
  obtain ⟨hcore, hchecked⟩ := bankSound_iff.1 sound
  obtain ⟨field, hmisses⟩ := BankDetails.exists_missesFirst incomplete
  refine ⟨field, hmisses, ?_⟩
  refine Payload.create_of_verifyFields_eq_error hfirst hcore ?_ ?_
  · rw [hprofile]
    exact hchecked
  · rw [hfields, BankDetails.checkRequired_of_missesFirst hmisses]
    rfl

/-- Two of the three kinds refuse an account for the same reason. -/
theorem create_domestic_eq_error_congr (hi : i ∈ d.domestic)
    (hj : j ∈ d.domestic) {e : AccountError} :
    Payload.create id salt i = .error e
      ↔ Payload.create id salt j = .error e := by
  obtain ⟨hifirst, hiprofile, hifields⟩ := BankDetails.checks_of_domestic hi
  obtain ⟨hjfirst, hjprofile, hjfields⟩ := BankDetails.checks_of_domestic hj
  refine Payload.create_eq_error_congr ?_ ?_ ?_
  · rw [hifirst, hjfirst]
  · rw [hiprofile, hjprofile]
  · rw [hifields, hjfields]

end

/-- A payload for transfers inside a country is made of a bank account exactly
if the account is in order and complete. If it is in order and not complete, its
first missing field is named. The three kinds of such payloads are made and
refused alike. -/
theorem create_domestic_iff (id : String) (salt : List UInt8) (d : BankDetails)
    (i : Instrument) (h : i ∈ d.domestic) :
    ((∃ p, Payload.create id salt i = .ok p)
        ↔ BankSound id salt d ∧ d.Complete)
      ∧ (BankSound id salt d → ¬d.Complete → ∃ field, d.MissesFirst field
        ∧ Payload.create id salt i = .error (.invalid field.name .missing))
      ∧ ∀ j ∈ d.domestic, ∀ e, Payload.create id salt i = .error e
          ↔ Payload.create id salt j = .error e :=
  ⟨exists_create_domestic_iff h, exists_create_domestic_eq_error h,
    fun _ hj _ => create_domestic_eq_error_congr h hj⟩

/-- A bank account of a country that names the bank and nothing more. -/
def BankDetails.sparse (country currency : String) : BankDetails where
  country := country
  currency := currency
  holderName := none
  holderId := none
  bankName := some "First Bank"
  bankId := none
  branchId := none
  accountNr := "12345678"
  accountType := none
  nationalAccountId := none

/-- Sweden is content with an account of which Argentina asks for more. -/
theorem create_domestic_iff_sparse :
    (∃ p, Payload.create "a" [1]
        (.countryBased (.bank (.sameBank (.sparse "SE" "SEK")))) = .ok p)
      ∧ BankSound "a" [1] (.sparse "AR" "ARS")
      ∧ ¬(BankDetails.sparse "AR" "ARS").Complete
      ∧ ∃ field, (BankDetails.sparse "AR" "ARS").MissesFirst field
        ∧ Payload.create "a" [1]
            (.countryBased (.bank (.sameBank (.sparse "AR" "ARS"))))
          = .error (.invalid field.name .missing) := by
  have hsound : BankSound "a" [1] (.sparse "SE" "SEK") :=
    ⟨by decide, by decide, by decide, by decide, nofun, nofun, by decide,
      nofun, nofun, by decide, nofun⟩
  have hcomplete : (BankDetails.sparse "SE" "SEK").Complete := by
    intro field
    cases field <;> decide
  have hsound' : BankSound "a" [1] (.sparse "AR" "ARS") :=
    ⟨by decide, by decide, by decide, by decide, nofun, nofun, by decide,
      nofun, nofun, by decide, nofun⟩
  have hincomplete : ¬(BankDetails.sparse "AR" "ARS").Complete :=
    fun h => h .holderId (by decide)
  refine ⟨?_, hsound', hincomplete, ?_⟩
  · exact (create_domestic_iff "a" [1] (.sparse "SE" "SEK") _
      (by decide)).1.2 ⟨hsound, hcomplete⟩
  · exact (create_domestic_iff "a" [1] (.sparse "AR" "ARS") _
      (by decide)).2.1 hsound' hincomplete

end FiatAccounts

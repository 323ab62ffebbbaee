/-
What a verified payload has been checked for, whatever its instrument.

The checks that all kinds share look at the profile. Each of them is made if the
profile has what it looks at, and is passed over otherwise
(`Payload.checkProfile_eq_ok`). What is checked of a country or a currency is
that the catalog has it and that the rail lists it.
-/
import FiatAccounts.Proofs.Catalog.Coverage
import FiatAccounts.Proofs.Check.Passed
import FiatAccounts.Proofs.Payload.Message

namespace FiatAccounts

/-- The id and the salt are there, and neither is too long. -/
theorem PayloadCore.check_eq_ok {core : PayloadCore} :
    core.check = .ok ()
      ↔ (1 ≤ core.id.length ∧ core.id.length ≤ 50)
        ∧ 1 ≤ core.salt.length ∧ core.salt.length ≤ 32 := by
  unfold check Check.id
  rw [bind_unit_eq_ok, Check.requiredText_eq_ok_of_pos Nat.one_pos,
    Check.refuse_eq_ok, Check.refuse_eq_ok, Check.pass_eq_ok, and_true,
    ← ne_eq, ← List.length_pos_iff, Nat.not_lt]
  rfl

namespace Payload

/-- What a profile has is checked, and nothing else. -/
theorem checkProfile_eq_ok {profile : Profile} :
    checkProfile profile = .ok ()
      ↔ (∀ code ∈ profile.country, checkCountry profile.rail code = .ok ())
        ∧ (∀ choice ∈ profile.currency,
          checkCurrency profile.rail choice = .ok ())
        ∧ ∀ details ∈ profile.bank, details.checkBounds = .ok () := by
  have hpass : Check.pass = .ok () := rfl
  unfold checkProfile
  cases profile.country <;> cases profile.currency <;> cases profile.bank <;>
    simp [bind_unit_eq_ok, hpass]

/-- A country passes if the catalog has it and the rail lists it. -/
theorem checkCountry_eq_ok {rail : Rail} {code : String} :
    checkCountry rail code = .ok ()
      ↔ Country.isKnown code = true ∧ code ∈ rail.countryCodes := by
  unfold checkCountry
  rw [bind_unit_eq_ok, Check.countryCode_eq_ok, Check.demand_eq_ok,
    Rail.supportsCountry_iff]

theorem checkCurrencyCode_eq_ok {rail : Rail} {field code : String} :
    checkCurrencyCode rail field code = .ok ()
      ↔ Currency.isKnown code = true ∧ code ∈ rail.currencyCodes := by
  unfold checkCurrencyCode
  rw [bind_unit_eq_ok, Check.currencyCode_eq_ok, Check.demand_eq_ok,
    Rail.supportsCurrency_iff]

/-- A choice of currencies passes if there is one in it and all of them pass. -/
theorem checkCurrency_eq_ok {rail : Rail} {choice : CurrencyChoice} :
    checkCurrency rail choice = .ok ()
      ↔ choice.codes ≠ [] ∧ ∀ code ∈ choice.codes,
        Currency.isKnown code = true ∧ code ∈ rail.currencyCodes := by
  unfold checkCurrency
  rw [Check.refuse_eq_ok, forM_eq_ok]
  simp only [checkCurrencyCode_eq_ok]

variable {p : Payload Instrument}

/-- The country of a verified payload is in the catalog and on its rail. -/
theorem country_of_verify (verified : p.verify = .ok ()) {code : String}
    (h : p.country = some code) :
    Country.isKnown code = true ∧ code ∈ p.rail.countryCodes := by
  have hprofile := (verify_eq_ok.1 verified).2.1
  exact checkCountry_eq_ok.1 ((checkProfile_eq_ok.1 hprofile).1 code h)

/-- The country of a verified payload is in the catalog. -/
theorem isKnown_of_verify (verified : p.verify = .ok ()) {code : String}
    (h : p.country = some code) : Country.isKnown code = true :=
  (country_of_verify verified h).1

/-- The currencies of a verified payload are in the catalog and on its rail, and
there is at least one. -/
theorem currency_of_verify (verified : p.verify = .ok ())
    {choice : CurrencyChoice} (h : p.currency = some choice) :
    choice.codes ≠ [] ∧ ∀ code ∈ choice.codes,
      Currency.isKnown code = true ∧ code ∈ p.rail.currencyCodes := by
  have hprofile := (verify_eq_ok.1 verified).2.1
  exact checkCurrency_eq_ok.1 ((checkProfile_eq_ok.1 hprofile).2.1 choice h)

/-- The lengths of a verified bank account's fields are checked. -/
theorem checkBounds_of_verify (verified : p.verify = .ok ())
    {details : BankDetails} (h : p.instrument.profile.bank = some details) :
    details.checkBounds = .ok () := by
  have hprofile := (verify_eq_ok.1 verified).2.1
  exact (checkProfile_eq_ok.1 hprofile).2.2 details h

/-- A refusal depends on the instrument only through its checks. -/
theorem create_eq_error_congr {i j : Instrument}
    (first : i.checkFirst = j.checkFirst)
    (profile : checkProfile i.profile = checkProfile j.profile)
    (fields : i.verifyFields = j.verifyFields) {id : String}
    {salt : List UInt8} {e : AccountError} :
    create id salt i = .error e ↔ create id salt j = .error e := by
  have hdone : ∀ p : Payload Instrument,
      (pure p : Except AccountError _) ≠ .error e := fun _ => nofun
  unfold create verify
  simp only [first, profile, fields, bind_eq_error, hdone, and_false,
    exists_false]

/-- Where only the rules of the instrument's own kind refuse, they say why. -/
theorem create_of_verifyFields_eq_error {id : String} {salt : List UInt8}
    {instrument : Instrument} {e : AccountError}
    (first : instrument.checkFirst = .ok ())
    (core : PayloadCore.check ⟨id, salt⟩ = .ok ())
    (profile : checkProfile instrument.profile = .ok ())
    (fields : instrument.verifyFields = .error e) :
    create id salt instrument = .error e := by
  unfold create verify
  simp only [first, core, profile, fields]
  rfl

end Payload

end FiatAccounts

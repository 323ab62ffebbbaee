/-
What it takes to make a payload for transfers in the single euro payments area.

The rules are made in many places: in the core, on the declared country and on
the fixed currency, and in the instrument's own checks, where the country of the
account number is looked at twice. Taken together they ask for consistent data
and for nothing else (`SepaConsistent`, `create_sepa_iff`). The rail lists the
members of the area once more, and the catalog of countries has them all, so a
member passes every look at the country. The instant rail has the same lists and
the same fields, and therefore the same verdict, refusals included.
-/
import FiatAccounts.Proofs.Iban.Country
import FiatAccounts.Proofs.Payload.Verified

namespace FiatAccounts

-- ============================================================= members

namespace Country

/-- Every member of the area is a country of the catalog. -/
theorem isKnown_of_mem_sepaCodes {code : String} (h : code ∈ sepaCodes) :
    isKnown code = true := by
  -- Both lists are sorted.
  have hlisted : Rail.sepaCountries.Sublist codes :=
    List.isSublist_iff_sublist.1 (by decide +kernel)
  rw [← Rail.sepaCountries_eq] at h
  exact isKnown_iff.2 (hlisted.subset h)

end Country

/-- Either rail of the area reaches its members and settles in its currency. -/
theorem Payload.checkProfile_sepa {rail : Rail}
    (hrail : rail = .sepa ∨ rail = .sepaInstant) {country : String} {d : Sepa} :
    checkProfile (d.profile rail country) = .ok ()
      ↔ country ∈ Country.sepaCodes := by
  have hcountries : rail.countryCodes = Country.sepaCodes := by
    rcases hrail with rfl | rfl <;> exact Rail.sepaCountries_eq
  have hcurrencies : rail.currencyCodes = ["EUR"] := by
    rcases hrail with rfl | rfl <;> rfl
  have heuro : checkCurrency rail (.fixed "EUR") = .ok () := by
    refine checkCurrency_eq_ok.2 ⟨by decide, fun code hcode => ?_⟩
    rw [List.mem_singleton.1 hcode, hcurrencies]
    exact ⟨by decide +kernel, List.mem_singleton_self _⟩
  rw [checkProfile_eq_ok]
  constructor
  · rintro ⟨hcountry, -, -⟩
    exact hcountries ▸ (checkCountry_eq_ok.1 (hcountry country rfl)).2
  · intro hmember
    refine ⟨?_, ?_, nofun⟩
    · rintro code ⟨⟩
      exact checkCountry_eq_ok.2
        ⟨Country.isKnown_of_mem_sepaCodes hmember, hcountries ▸ hmember⟩
    · rintro choice ⟨⟩
      exact heuro

-- ========================================================== the fields

/-- The two looks at the country of an account number come to one if it is the
declared country that has to be a member. -/
theorem Sepa.check_eq_ok {country : String} {d : Sepa}
    (member : country ∈ Country.sepaCodes) :
    d.check country = .ok ()
      ↔ (2 ≤ d.holderName.length ∧ d.holderName.length ≤ 100)
        ∧ Check.iban d.iban = .ok ()
        ∧ String.ofList (d.iban.toList.take 2) = country
        ∧ Check.bic d.bic = .ok ()
        ∧ d.acceptedCountryCodes ≠ []
        ∧ ∀ code ∈ d.acceptedCountryCodes, code ∈ Country.sepaCodes := by
  unfold check Check.name
  simp only [bind_unit_eq_ok]
  rw [Check.requiredText_eq_ok_of_pos Nat.two_pos, Check.ibanOf_eq_ok,
    Check.countryCodes_eq_ok]
  refine and_congr_right' ⟨?_, ?_⟩
  · rintro ⟨⟨hiban, -⟩, hcountry, hrest⟩
    have hshaped := (Check.iban_eq_ok.1 hiban).1
    exact ⟨hiban, (Check.ibanCountryIs_eq_ok hshaped).1 hcountry, hrest⟩
  · rintro ⟨hiban, hcountry, hrest⟩
    have hshaped := (Check.iban_eq_ok.1 hiban).1
    exact ⟨⟨hiban, hcountry ▸ member⟩,
      (Check.ibanCountryIs_eq_ok hshaped).2 hcountry, hrest⟩

-- ======================================================== the payloads

/-- The parts of a payload for the area, of which no two contradict each
other. -/
structure SepaConsistent (id : String) (salt : List UInt8) (country : String)
    (d : Sepa) : Prop where
  id : 1 ≤ id.length ∧ id.length ≤ 50
  salt : 1 ≤ salt.length ∧ salt.length ≤ 32
  member : country ∈ Country.sepaCodes
  holder : 2 ≤ d.holderName.length ∧ d.holderName.length ≤ 100
  iban : Check.iban d.iban = .ok ()
  issued : String.ofList (d.iban.toList.take 2) = country
  bic : Check.bic d.bic = .ok ()
  nonempty : d.acceptedCountryCodes ≠ []
  accepted : ∀ code ∈ d.acceptedCountryCodes, code ∈ Country.sepaCodes

section

variable {id : String} {salt : List UInt8} {country : String} {d : Sepa}

/-- Consistency can be evaluated. The members are looked up by their currency,
because a sorted list does not reduce. -/
instance : Decidable (SepaConsistent id salt country d) :=
  decidable_of_iff
    ((1 ≤ id.length ∧ id.length ≤ 50)
      ∧ (1 ≤ salt.length ∧ salt.length ≤ 32)
      ∧ Country.isSepa country = true
      ∧ (2 ≤ d.holderName.length ∧ d.holderName.length ≤ 100)
      ∧ Check.iban d.iban = .ok ()
      ∧ String.ofList (d.iban.toList.take 2) = country
      ∧ Check.bic d.bic = .ok ()
      ∧ d.acceptedCountryCodes ≠ []
      ∧ ∀ code ∈ d.acceptedCountryCodes, Country.isSepa code = true) <| by
    simp only [Country.isSepa_iff]
    constructor
    · rintro ⟨hid, hsalt, hmember, hholder, hiban, hissued, hbic, hnonempty,
        haccepted⟩
      exact ⟨hid, hsalt, hmember, hholder, hiban, hissued, hbic, hnonempty,
        haccepted⟩
    · intro h
      exact ⟨h.id, h.salt, h.member, h.holder, h.iban, h.issued, h.bic,
        h.nonempty, h.accepted⟩

/-- An instrument with the profile and the rules of the area, on either rail,
passes with consistent data and with nothing else. -/
theorem verify_sepa_iff {instrument : Instrument} (rail : Rail)
    (hrail : rail = .sepa ∨ rail = .sepaInstant)
    (hprofile : instrument.profile = d.profile rail country)
    (hfields : instrument.verifyFields = (d.check country).raise) :
    Payload.verify ⟨⟨id, salt⟩, instrument⟩ = .ok ()
      ↔ SepaConsistent id salt country d := by
  rw [Payload.verify_eq_ok, PayloadCore.check_eq_ok, hprofile, hfields,
    Payload.checkProfile_sepa hrail, Check.raise_eq_ok]
  constructor
  · rintro ⟨⟨hid, hsalt⟩, hmember, hcheck⟩
    obtain ⟨hholder, hiban, hissued, hbic, hnonempty, haccepted⟩ :=
      (d.check_eq_ok hmember).1 hcheck
    exact ⟨hid, hsalt, hmember, hholder, hiban, hissued, hbic, hnonempty,
      haccepted⟩
  · intro h
    exact ⟨⟨h.id, h.salt⟩, h.member, (d.check_eq_ok h.member).2
      ⟨h.holder, h.iban, h.issued, h.bic, h.nonempty, h.accepted⟩⟩

end

/-- A payload for the area is made from consistent data and from nothing else.
The instant rail makes and refuses the same ones, and for the same reason. -/
theorem create_sepa_iff (id : String) (salt : List UInt8) (country : String)
    (d : Sepa) :
    (Country.sepaCodes.Nodup ∧ Country.sepaCodes.length = 38)
      ∧ ((∃ p, Payload.create id salt (.countryBased (.sepa ⟨country, d⟩))
          = .ok p) ↔ SepaConsistent id salt country d)
      ∧ ((∃ p, Payload.create id salt
            (.countryBased (.sepaInstant ⟨country, d⟩)) = .ok p)
          ↔ SepaConsistent id salt country d)
      ∧ ∀ e, Payload.create id salt (.countryBased (.sepa ⟨country, d⟩))
            = .error e
          ↔ Payload.create id salt (.countryBased (.sepaInstant ⟨country, d⟩))
            = .error e := by
  have hprofile : Payload.checkProfile (d.profile .sepa country)
      = Payload.checkProfile (d.profile .sepaInstant country) := rfl
  refine ⟨?_, ?_, ?_, fun e => ?_⟩
  -- counted in the list that the rails write out
  · rw [← Rail.sepaCountries_eq]
    exact ⟨by decide, rfl⟩
  · rw [Payload.exists_create_iff]
    exact verify_sepa_iff .sepa (.inl rfl) rfl rfl
  · rw [Payload.exists_create_iff]
    exact verify_sepa_iff .sepaInstant (.inr rfl) rfl rfl
  · exact Payload.create_eq_error_congr
      (i := .countryBased (.sepa ⟨country, d⟩))
      (j := .countryBased (.sepaInstant ⟨country, d⟩)) rfl hprofile rfl

end FiatAccounts

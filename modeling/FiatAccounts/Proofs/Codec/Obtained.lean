/-
Every payload that this library hands out is valid.

A payload is made from its parts, read from bytes, or found in an account that
was read from bytes. All of these ways come together in one step that verifies
it, so what is obtained in any of them is what is verified, no more and no less
(`Payload.obtained_iff_verify`), and it need not be verified again to be
trusted.
-/
import FiatAccounts.Codec
import FiatAccounts.Proofs.Account.Message
import FiatAccounts.Proofs.Payload.Sepa

namespace FiatAccounts

-- ================================================== parts of their own

/-- The accepted countries of a transfer in the area are members of it. -/
theorem Sepa.isSepa_of_check {country : String} {d : Sepa}
    (h : d.check country = .ok ()) {code : String}
    (hcode : code ∈ d.acceptedCountryCodes) : Country.isSepa code = true := by
  unfold check at h
  simp only [bind_unit_eq_ok] at h
  obtain ⟨-, -, -, -, haccepted⟩ := h
  exact Country.isSepa_iff.2 ((Check.countryCodes_eq_ok.1 haccepted).2 _ hcode)

/-- The bank in between, where there is one, is in a known country. -/
theorem Swift.isKnown_of_check {d : Swift} (h : d.check = .ok ())
    {code : String} (hcode : d.intermediaryBankCountryCode = some code) :
    Country.isKnown code = true := by
  unfold check at h
  simp only [bind_unit_eq_ok, hcode] at h
  obtain ⟨-, -, -, -, -, -, -, -, hcountry, -⟩ := h
  exact Check.countryCode_eq_ok.1 hcountry

-- ============================================================= sources

/-- The payloads that exist: where each comes from. -/
inductive Payload.Obtained : Payload Instrument → Prop where
  | created {id : String} {salt : List UInt8} {instrument : Instrument}
      {p : Payload Instrument} (h : create id salt instrument = .ok p) :
    Obtained p
  | achTransfer {id : String} {salt : List UInt8} {holderName : String}
      {holderAddress : Option String} {bankName routingNr accountNr : String}
      {accountType : BankAccountType} {p : Payload Instrument}
      (h : createAchTransfer id salt holderName holderAddress bankName routingNr
        accountNr accountType = .ok p) :
    Obtained p
  | wireTransfer {id : String} {salt : List UInt8} {holderName : String}
      {holderAddress : Option String} {bankName routingNr accountNr : String}
      {p : Payload Instrument}
      (h : createWireTransfer id salt holderName holderAddress bankName
        routingNr accountNr = .ok p) :
    Obtained p
  | decoded {bytes : List UInt8} {p : Payload Instrument}
      (h : decodePayload bytes = .ok p) :
    Obtained p
  | decodedBy {codec : Codec} {bytes : List UInt8} {p : Payload Instrument}
      (h : codec.decodePayload bytes = .ok p) :
    Obtained p
  | inAccount {bytes : List UInt8} {a : PaymentAccount}
      (h : decodeAccount bytes = .ok a) :
    Obtained a.payload
  | inAccountBy {codec : Codec} {bytes : List UInt8} {a : PaymentAccount}
      (h : codec.decodeAccount bytes = .ok a) :
    Obtained a.payload

/-- A payload that is read from bytes has been verified on the way. -/
theorem verify_of_decodePayload {bytes : List UInt8} {p : Payload Instrument}
    (h : decodePayload bytes = .ok p) : p.verify = .ok () := by
  unfold decodePayload at h
  split at h
  · exact (Payload.ofMessage_eq_ok.1 h).2
  · cases h

/-- So has the payload of an account that is read from bytes. -/
theorem verify_of_decodeAccount {bytes : List UInt8} {a : PaymentAccount}
    (h : decodeAccount bytes = .ok a) : a.payload.verify = .ok () := by
  unfold decodeAccount at h
  split at h
  · exact (PaymentAccount.ofMessage_eq_ok.1 h).2
  · cases h

/-- What is obtained is what is verified. -/
theorem Payload.obtained_iff_verify {p : Payload Instrument} :
    p.Obtained ↔ p.verify = .ok () := by
  constructor
  · intro h
    cases h with
    | created h => exact (create_eq_ok.1 h).2
    | achTransfer h => exact (create_eq_ok.1 h).2
    | wireTransfer h => exact (create_eq_ok.1 h).2
    | decoded h => exact verify_of_decodePayload h
    | decodedBy h => exact verify_of_decodePayload (bind_unit_eq_ok.1 h).2
    | inAccount h => exact verify_of_decodeAccount h
    | inAccountBy h => exact verify_of_decodeAccount (bind_unit_eq_ok.1 h).2
  · intro h
    exact .created (create_eq_ok.2 ⟨rfl, h⟩)

/-- Every payload in existence obeys every rule. Its country and its currencies
are known and offered on its rail, and so are the codes that only its own kind
of instrument has. -/
theorem obtained_valid (p : Payload Instrument) (h : p.Obtained) :
    p.verify = .ok ()
      ∧ (∀ code, p.country = some code →
        (Country.find? code).isSome = true ∧ code ∈ p.rail.countryCodes)
      ∧ (∀ choice, p.currency = some choice →
        choice.codes ≠ [] ∧ ∀ code ∈ choice.codes,
          (Currency.find? code).isSome = true ∧ code ∈ p.rail.currencyCodes)
      ∧ (∀ d code, p.instrument = .countryBased (.swift d) →
        d.details.intermediaryBankCountryCode = some code →
          (Country.find? code).isSome = true)
      ∧ (∀ d, p.instrument = .countryBased (.sepa d)
          ∨ p.instrument = .countryBased (.sepaInstant d) →
        ∀ code ∈ d.details.acceptedCountryCodes,
          Country.isSepa code = true) := by
  have verified := Payload.obtained_iff_verify.1 h
  have hfields := (Payload.verify_eq_ok.1 verified).2.2
  refine ⟨verified, fun _ => Payload.country_of_verify verified,
    fun _ => Payload.currency_of_verify verified, ?_, ?_⟩
  · intro d code hswift hcode
    rw [hswift] at hfields
    exact d.details.isKnown_of_check (Check.raise_eq_ok.1 hfields) hcode
  · intro d hsepa code hcode
    have hcheck : d.details.check d.country = .ok () := by
      rcases hsepa with hplain | hinstant
      · rw [hplain] at hfields
        exact Check.raise_eq_ok.1 hfields
      · rw [hinstant] at hfields
        exact Check.raise_eq_ok.1 hfields
    exact d.details.isSepa_of_check hcheck hcode

/-- A transfer from Germany and Austria. -/
def Payload.sepaSample : Payload Instrument where
  id := "sepa-1"
  salt := [1]
  instrument := .countryBased <| .sepa
    { country := "DE"
      details :=
        { holderName := "Ada Moss"
          iban := "DE89370400440532013000"
          bic := "COBADEFF"
          acceptedCountryCodes := ["DE", "AT"] } }

/-- Its parts agree with each other, so it can be made. -/
theorem Payload.obtained_sepaSample : sepaSample.Obtained := by
  refine obtained_iff_verify.2 ?_
  exact (verify_sepa_iff .sepa (.inl rfl) rfl rfl).2 (by decide +kernel)

/-- A transfer of the area can be made, and its codes are offered on its rail.
-/
theorem obtained_valid_sample :
    Payload.sepaSample.Obtained
      ∧ "DE" ∈ Payload.sepaSample.rail.countryCodes
      ∧ "EUR" ∈ Payload.sepaSample.rail.currencyCodes
      ∧ Country.isSepa "AT" = true := by
  have hobtained := Payload.obtained_sepaSample
  obtain ⟨-, hcountry, hcurrency, -, hsepa⟩ := obtained_valid _ hobtained
  exact ⟨hobtained, (hcountry _ rfl).2,
    ((hcurrency _ rfl).2 _ (List.mem_singleton_self _)).2,
    hsepa _ (.inl rfl) _ (by decide)⟩

end FiatAccounts

/-
The fields of an instrument, and the values that it identifies itself by.

`Instrument.fields` lists every field that holds one text, under its name and
whether or not a fingerprint asks for it. The values by which an instrument is
known again (`Profile.identity`) are a list of its own in each kind of
instrument. That the two agree on what a fingerprint asks for is proved where
the rules are (`Fingerprint.Answers`).

A verified instrument identifies itself by texts that say something
(`Instrument.spoken`, `BankDetails.value?_ne_empty`). No kind has a rule for
that alone. Each such value is a field that must be there, or one that is
checked when it is.
-/
import FiatAccounts.Instrument.Basic
import FiatAccounts.Proofs.Check.Passed

namespace FiatAccounts

-- ================================================================ fields

/-- The fields of one text each beside the country. -/
def CountryInstrument.fields :
    CountryInstrument → List (String × Option String)
  | .bank b =>
    ("selected_currency_code", b.details.currency)
      :: BankField.all.map fun field => (field.name, b.details.value? field)
  | .amazonGiftCard d => [("email_or_mobile_nr", d.details.emailOrMobileNr)]
  | .swish d => [("holder_name", d.holderName), ("mobile_nr", d.mobileNr)]
  | .sepa d =>
    [("holder_name", d.details.holderName), ("iban", d.details.iban),
     ("bic", d.details.bic)]
  | .sepaInstant d =>
    [("holder_name", d.details.holderName), ("iban", d.details.iban),
     ("bic", d.details.bic)]
  | .bizum d => [("mobile_nr", d.mobileNr)]
  | .f2f d =>
    [("selected_currency_code", d.details.selectedCurrencyCode),
     ("city", d.details.city), ("contact", d.details.contact),
     ("extra_info", d.details.extraInfo)]
  | .pix d => [("holder_name", d.holderName), ("pix_key", d.pixKey)]
  | .promptPay d => [("prompt_pay_id", d.promptPayId)]
  | .strike d => [("holder_name", d.holderName)]
  | .upi d => [("virtual_payment_address", d.virtualPaymentAddress)]
  | .wise d =>
    [("holder_name", d.details.holderName), ("email", d.details.email)]
  | .wiseUsd d =>
    [("holder_name", d.holderName), ("email", d.email),
     ("beneficiary_address", d.beneficiaryAddress)]
  | .moneyGram d =>
    [("holder_name", d.details.holderName), ("email", d.details.email),
     ("state", d.details.state)]
  | .moneyBeam d =>
    [("selected_currency_code", d.details.selectedCurrencyCode),
     ("holder_name", d.details.holderName),
     ("account_id", d.details.accountId)]
  | .pin4 d => [("mobile_nr", d.mobileNr)]
  | .swift d =>
    [("selected_currency_code", d.details.selectedCurrencyCode),
     ("beneficiary_name", d.details.beneficiaryName),
     ("beneficiary_account_nr", d.details.beneficiaryAccountNr),
     ("beneficiary_phone", d.details.beneficiaryPhone),
     ("beneficiary_address", d.details.beneficiaryAddress),
     ("bank_swift_code", d.details.bankSwiftCode),
     ("bank_name", d.details.bankName),
     ("bank_branch", d.details.bankBranch),
     ("bank_address", d.details.bankAddress),
     ("intermediary_bank_country_code",
      d.details.intermediaryBankCountryCode),
     ("intermediary_bank_swift_code", d.details.intermediaryBankSwiftCode),
     ("intermediary_bank_name", d.details.intermediaryBankName),
     ("intermediary_bank_branch", d.details.intermediaryBankBranch),
     ("intermediary_bank_address", d.details.intermediaryBankAddress),
     ("additional_instructions", d.details.additionalInstructions)]

/-- The fields of one text each, under their names. A field that may be absent
holds a text or none. -/
def Instrument.fields : Instrument → List (String × Option String)
  | .zelle d =>
    [("holder_name", d.holderName), ("email_or_mobile_nr", d.emailOrMobileNr)]
  | .usPostalMoneyOrder d =>
    [("holder_name", d.holderName), ("postal_address", d.postalAddress)]
  | .payId d => [("holder_name", d.holderName), ("pay_id", d.payId)]
  | .interacETransfer d =>
    [("holder_name", d.holderName), ("email", d.email),
     ("question", d.question), ("answer", d.answer)]
  | .halCash d => [("mobile_nr", d.mobileNr)]
  | .fasterPayments d =>
    [("holder_name", d.holderName), ("sort_code", d.sortCode),
     ("account_nr", d.accountNr)]
  | .sbp d =>
    [("holder_name", d.holderName), ("mobile_number", d.mobileNumber),
     ("bank_name", d.bankName)]
  | .cashByMail d =>
    [("postal_address", d.postalAddress), ("contact", d.contact),
     ("extra_info", d.extraInfo)]
  | .revolut d => [("user_name", d.userName)]
  | .uphold d => [("holder_name", d.holderName), ("account_id", d.accountId)]
  | .userDefinedFiat d => [("account_data", d.accountData)]
  | .countryBased c => c.fields

/-- The field of a name, if the instrument has one. -/
def Instrument.field? (i : Instrument) (name : String) :
    Option (Option String) :=
  i.fields.lookup name

-- ================================================= no empty value

/-- No value by which the profile is identified is the empty text. -/
def Profile.Spoken (profile : Profile) : Prop :=
  ∀ pair ∈ profile.identity, pair.2 ≠ ""

namespace BankDetails

/-- A field of a bank account that is there says something. -/
theorem value?_ne_empty {d : BankDetails} (h : d.checkBounds = .ok ())
    {field : BankField} {value : String} (hvalue : d.value? field = some value) :
    value ≠ "" := by
  unfold checkBounds at h
  simp only [bind_unit_eq_ok] at h
  obtain ⟨hholder, hholderId, hbank, hbankId, hbranch, hnr, hnational⟩ := h
  cases field with
  | holderName => exact (Check.optionalText_eq_ok.1 hholder _ hvalue).1
  | holderId => exact (Check.optionalText_eq_ok.1 hholderId _ hvalue).1
  | bankName => exact (Check.optionalText_eq_ok.1 hbank _ hvalue).1
  | bankId => exact (Check.optionalText_eq_ok.1 hbankId _ hvalue).1
  | branchId => exact (Check.optionalText_eq_ok.1 hbranch _ hvalue).1
  | accountNr =>
      cases hvalue
      exact Check.requiredText_ne_empty hnr
  | accountType =>
      obtain ⟨kind, -, rfl⟩ := Option.map_eq_some_iff.1 hvalue
      cases kind <;> decide
  | nationalAccountId =>
      exact (Check.optionalText_eq_ok.1 hnational _ hvalue).1

end BankDetails

/-- A verified instrument of a country is identified by texts that say
something. -/
theorem CountryInstrument.spoken {c : CountryInstrument}
    (h : c.verifyFields = .ok ()) (unbanked : c.family ≠ .bank) :
    c.profile.Spoken := by
  -- checks come in the order of the rules, values in that of the identity
  cases c
  case bank b => exact absurd rfl unbanked
  all_goals replace h := Check.raise_eq_ok.1 h
  case amazonGiftCard d =>
    exact List.forall_mem_singleton.2 (Check.emailOrPhone_ne_empty h)
  case swish d =>
    obtain ⟨-, hmobile⟩ := bind_unit_eq_ok.1 h
    exact List.forall_mem_singleton.2 (Check.phone_ne_empty hmobile)
  case sepa d | sepaInstant d =>
    obtain ⟨-, h⟩ := bind_unit_eq_ok.1 h
    obtain ⟨hiban, h⟩ := bind_unit_eq_ok.1 h
    obtain ⟨-, h⟩ := bind_unit_eq_ok.1 h
    obtain ⟨hbic, -⟩ := bind_unit_eq_ok.1 h
    refine List.forall_mem_cons.2 ⟨Check.ibanOf_ne_empty hiban, ?_⟩
    exact List.forall_mem_singleton.2 (Check.bic_ne_empty hbic)
  case bizum d | pin4 d =>
    exact List.forall_mem_singleton.2 (Check.phone_ne_empty h)
  case f2f d =>
    obtain ⟨hcity, h⟩ := bind_unit_eq_ok.1 h
    obtain ⟨hcontact, -⟩ := bind_unit_eq_ok.1 h
    refine List.forall_mem_cons.2 ⟨Check.requiredText_ne_empty hcontact, ?_⟩
    exact List.forall_mem_singleton.2 (Check.requiredText_ne_empty hcity)
  case pix d | moneyBeam d =>
    obtain ⟨hholder, hkey⟩ := bind_unit_eq_ok.1 h
    refine List.forall_mem_cons.2 ⟨Check.requiredText_ne_empty hkey, ?_⟩
    exact List.forall_mem_singleton.2 (Check.requiredText_ne_empty hholder)
  case promptPay d | strike d | upi d =>
    exact List.forall_mem_singleton.2 (Check.requiredText_ne_empty h)
  case wise d =>
    obtain ⟨hholder, hemail⟩ := bind_unit_eq_ok.1 h
    refine List.forall_mem_cons.2 ⟨Check.email_ne_empty hemail, ?_⟩
    exact List.forall_mem_singleton.2 (Check.requiredText_ne_empty hholder)
  case wiseUsd d =>
    obtain ⟨hholder, -⟩ := bind_unit_eq_ok.1 h
    exact List.forall_mem_singleton.2 (Check.requiredText_ne_empty hholder)
  case moneyGram d =>
    obtain ⟨hholder, h⟩ := bind_unit_eq_ok.1 h
    obtain ⟨hemail, hstate⟩ := bind_unit_eq_ok.1 h
    have hpair : ∀ pair ∈ [("holder_name", d.details.holderName),
        ("email", d.details.email)], pair.2 ≠ "" :=
      List.forall_mem_cons.2 ⟨Check.requiredText_ne_empty hholder,
        List.forall_mem_singleton.2 (Check.email_ne_empty hemail)⟩
    refine List.forall_mem_append.2 ⟨?_, hpair⟩
    cases hd : d.details.state with
    | none => exact List.forall_mem_nil _
    | some state =>
        rw [hd] at hstate
        exact List.forall_mem_singleton.2 (Check.optionalText_ne_empty hstate)
  case swift d =>
    obtain ⟨-, h⟩ := bind_unit_eq_ok.1 h
    obtain ⟨hnr, -⟩ := bind_unit_eq_ok.1 h
    exact List.forall_mem_singleton.2 (Check.requiredText_ne_empty hnr)

/-- A verified instrument is identified by texts that say something. -/
theorem Instrument.spoken {i : Instrument} (h : i.verifyFields = .ok ())
    (unbanked : i.family ≠ .bank) : i.profile.Spoken := by
  cases i
  case countryBased c => exact c.spoken h unbanked
  all_goals replace h := Check.raise_eq_ok.1 h
  case zelle d =>
    obtain ⟨-, hcontact⟩ := bind_unit_eq_ok.1 h
    exact List.forall_mem_singleton.2 (Check.emailOrPhone_ne_empty hcontact)
  case usPostalMoneyOrder d =>
    obtain ⟨hholder, haddress⟩ := bind_unit_eq_ok.1 h
    refine List.forall_mem_cons.2 ⟨Check.requiredText_ne_empty hholder, ?_⟩
    exact List.forall_mem_singleton.2 (Check.requiredText_ne_empty haddress)
  case payId d =>
    obtain ⟨hholder, hpayId⟩ := bind_unit_eq_ok.1 h
    refine List.forall_mem_cons.2 ⟨Check.requiredText_ne_empty hpayId, ?_⟩
    exact List.forall_mem_singleton.2 (Check.requiredText_ne_empty hholder)
  case interacETransfer d =>
    obtain ⟨-, h⟩ := bind_unit_eq_ok.1 h
    obtain ⟨hemail, h⟩ := bind_unit_eq_ok.1 h
    obtain ⟨hquestion, hanswer⟩ := bind_unit_eq_ok.1 h
    refine List.forall_mem_cons.2 ⟨Check.email_ne_empty hemail, ?_⟩
    refine List.forall_mem_cons.2 ⟨Check.requiredText_ne_empty hquestion, ?_⟩
    exact List.forall_mem_singleton.2 (Check.requiredText_ne_empty hanswer)
  case halCash d =>
    exact List.forall_mem_singleton.2 (Check.phone_ne_empty h)
  case fasterPayments d =>
    obtain ⟨-, h⟩ := bind_unit_eq_ok.1 h
    obtain ⟨hsortCode, hnr⟩ := bind_unit_eq_ok.1 h
    refine List.forall_mem_cons.2 ⟨Check.digits_ne_empty hsortCode, ?_⟩
    exact List.forall_mem_singleton.2 (Check.digits_ne_empty hnr)
  case sbp d =>
    obtain ⟨-, h⟩ := bind_unit_eq_ok.1 h
    obtain ⟨hmobile, hbank⟩ := bind_unit_eq_ok.1 h
    refine List.forall_mem_cons.2 ⟨Check.phone_ne_empty hmobile, ?_⟩
    exact List.forall_mem_singleton.2 (Check.requiredText_ne_empty hbank)
  case cashByMail d =>
    obtain ⟨haddress, h⟩ := bind_unit_eq_ok.1 h
    obtain ⟨hcontact, -⟩ := bind_unit_eq_ok.1 h
    refine List.forall_mem_cons.2 ⟨Check.requiredText_ne_empty hcontact, ?_⟩
    exact List.forall_mem_singleton.2 (Check.requiredText_ne_empty haddress)
  case uphold d =>
    obtain ⟨-, haccount⟩ := bind_unit_eq_ok.1 h
    exact List.forall_mem_singleton.2 (Check.requiredText_ne_empty haccount)
  case revolut d | userDefinedFiat d =>
    exact List.forall_mem_singleton.2 (Check.requiredText_ne_empty h)

end FiatAccounts

/-
The instruments that are bound to a country: what each consists of, when its
fields are sound and what its profile says. A rail that works in one country
only fixes the country; the others are declared in one, and the country then
stands beside the instrument's own fields (`InCountry`).
-/
import FiatAccounts.Catalog.Currency
import FiatAccounts.Check.Bic
import FiatAccounts.Check.Codes
import FiatAccounts.Check.Contact
import FiatAccounts.Check.Iban
import FiatAccounts.Instrument.Profile

namespace FiatAccounts

/-- An instrument's fields together with the country that it is declared in. -/
structure InCountry (δ : Type) where
  country : String
  details : δ
  deriving DecidableEq, Repr

/-- An Amazon gift card, sent to an e-mail address or a phone number and paid
in the currency of its country. -/
structure AmazonGiftCard where
  emailOrMobileNr : String
  deriving DecidableEq, Repr

namespace AmazonGiftCard

def check (d : AmazonGiftCard) : Check :=
  Check.emailOrPhone "email_or_mobile_nr" d.emailOrMobileNr

def profile (country : String) (d : AmazonGiftCard) : Profile where
  rail := .amazonGiftCard
  country := some country
  currency :=
    some (.fixed (((Currency.ofCountry? country).map Currency.code).getD ""))
  bank := none
  identity := [("email_or_mobile_nr", d.emailOrMobileNr)]
  summary := [("Country", country), ("Email or mobile no.", d.emailOrMobileNr)]
  hint := d.emailOrMobileNr

end AmazonGiftCard

/-- Swish, in Sweden: paid to a mobile number. -/
structure Swish where
  holderName : String
  mobileNr : String
  deriving DecidableEq, Repr

namespace Swish

def check (d : Swish) : Check := do
  Check.name "holder_name" d.holderName
  Check.phone "mobile_nr" d.mobileNr

def profile (d : Swish) : Profile where
  rail := .swish
  country := some "SE"
  currency := some (.fixed "SEK")
  bank := none
  identity := [("mobile_nr", d.mobileNr)]
  summary := [("Holder name", d.holderName), ("Mobile no.", d.mobileNr)]
  hint := d.mobileNr

end Swish

/-- A transfer inside the single euro payments area, plain or instant, from the
accepted countries. -/
structure Sepa where
  holderName : String
  iban : String
  bic : String
  acceptedCountryCodes : List String
  deriving DecidableEq, Repr

namespace Sepa

/-- The account number must be of the declared country, and only members of the
area are accepted. -/
def check (country : String) (d : Sepa) : Check := do
  Check.name "holder_name" d.holderName
  Check.ibanOf Country.sepaCodes d.iban
  Check.ibanCountryIs d.iban country
  Check.bic d.bic
  Check.countryCodes "accepted_country_codes" d.acceptedCountryCodes
    Country.sepaCodes

def profile (rail : Rail) (country : String) (d : Sepa) : Profile where
  rail := rail
  country := some country
  currency := some (.fixed "EUR")
  bank := none
  identity := [("iban", d.iban), ("bic", d.bic)]
  summary :=
    [("Holder name", d.holderName), ("IBAN", d.iban), ("BIC", d.bic),
     ("Country of bank", country),
     ("Accepted countries", joinCodes d.acceptedCountryCodes)]
  hint := d.iban

end Sepa

/-- Bizum, in Spain: paid to a mobile number. -/
structure Bizum where
  mobileNr : String
  deriving DecidableEq, Repr

namespace Bizum

def check (d : Bizum) : Check :=
  Check.phone "mobile_nr" d.mobileNr

def profile (d : Bizum) : Profile where
  rail := .bizum
  country := some "ES"
  currency := some (.fixed "EUR")
  bank := none
  identity := [("mobile_nr", d.mobileNr)]
  summary := [("Mobile no.", d.mobileNr)]
  hint := d.mobileNr

end Bizum

/-- Cash from hand to hand, in a city. -/
structure F2f where
  selectedCurrencyCode : String
  city : String
  contact : String
  extraInfo : Option String
  deriving DecidableEq, Repr

namespace F2f

def check (d : F2f) : Check := do
  Check.requiredText "city" d.city 2 50
  Check.requiredText "contact" d.contact 2 100
  Check.optionalText "extra_info" d.extraInfo 1 300

def profile (country : String) (d : F2f) : Profile where
  rail := .f2f
  country := some country
  currency := some (.selected d.selectedCurrencyCode)
  bank := none
  identity := [("contact", d.contact), ("city", d.city)]
  summary :=
    [("Country", country), ("Currency", d.selectedCurrencyCode),
     ("City", d.city), ("Contact", d.contact)]
      ++ whenPresent "Additional information" d.extraInfo
  hint := d.contact

end F2f

/-- Pix, in Brazil: paid to a key. -/
structure Pix where
  holderName : String
  pixKey : String
  deriving DecidableEq, Repr

namespace Pix

def check (d : Pix) : Check := do
  Check.name "holder_name" d.holderName
  Check.requiredText "pix_key" d.pixKey 2 100

def profile (d : Pix) : Profile where
  rail := .pix
  country := some "BR"
  currency := some (.fixed "BRL")
  bank := none
  identity := [("pix_key", d.pixKey), ("holder_name", d.holderName)]
  summary := [("Holder name", d.holderName), ("Pix key", d.pixKey)]
  hint := d.pixKey

end Pix

/-- PromptPay, in Thailand. -/
structure PromptPay where
  promptPayId : String
  deriving DecidableEq, Repr

namespace PromptPay

def check (d : PromptPay) : Check :=
  Check.requiredText "prompt_pay_id" d.promptPayId 2 50

def profile (d : PromptPay) : Profile where
  rail := .promptPay
  country := some "TH"
  currency := some (.fixed "THB")
  bank := none
  identity := [("prompt_pay_id", d.promptPayId)]
  summary := [("PromptPay ID", d.promptPayId)]
  hint := d.promptPayId

end PromptPay

/-- Strike, in the United States. -/
structure Strike where
  holderName : String
  deriving DecidableEq, Repr

namespace Strike

def check (d : Strike) : Check :=
  Check.name "holder_name" d.holderName

def profile (d : Strike) : Profile where
  rail := .strike
  country := some "US"
  currency := some (.fixed "USD")
  bank := none
  identity := [("holder_name", d.holderName)]
  summary := [("Holder name", d.holderName)]
  hint := d.holderName

end Strike

/-- The Unified Payments Interface of India. -/
structure Upi where
  virtualPaymentAddress : String
  deriving DecidableEq, Repr

namespace Upi

def check (d : Upi) : Check :=
  Check.requiredText "virtual_payment_address" d.virtualPaymentAddress 2 100

def profile (d : Upi) : Profile where
  rail := .upi
  country := some "IN"
  currency := some (.fixed "INR")
  bank := none
  identity := [("virtual_payment_address", d.virtualPaymentAddress)]
  summary := [("Virtual payment address", d.virtualPaymentAddress)]
  hint := d.virtualPaymentAddress

end Upi

/-- Wise, in the currencies that its owner picks. -/
structure Wise where
  selectedCurrencyCodes : List String
  holderName : String
  email : String
  deriving DecidableEq, Repr

namespace Wise

def check (d : Wise) : Check := do
  Check.name "holder_name" d.holderName
  Check.email "email" d.email

def profile (country : String) (d : Wise) : Profile where
  rail := .wise
  country := some country
  currency := some (.selectedMany d.selectedCurrencyCodes)
  bank := none
  identity := [("email", d.email), ("holder_name", d.holderName)]
  summary :=
    [("Holder name", d.holderName), ("Email", d.email),
     ("Currencies", joinCodes d.selectedCurrencyCodes)]
  hint := d.email

end Wise

/-- Wise in US dollars, which asks for an address as well. -/
structure WiseUsd where
  holderName : String
  email : String
  beneficiaryAddress : String
  deriving DecidableEq, Repr

namespace WiseUsd

def check (d : WiseUsd) : Check := do
  Check.name "holder_name" d.holderName
  Check.email "email" d.email
  Check.address "beneficiary_address" d.beneficiaryAddress

def profile (d : WiseUsd) : Profile where
  rail := .wiseUsd
  country := some "US"
  currency := some (.fixed "USD")
  bank := none
  identity := [("holder_name", d.holderName)]
  summary :=
    [("Holder name", d.holderName), ("Email", d.email),
     ("Beneficiary address", d.beneficiaryAddress)]
  hint := d.email

end WiseUsd

/-- MoneyGram, in the currencies that its owner picks. -/
structure MoneyGram where
  selectedCurrencyCodes : List String
  holderName : String
  email : String
  state : Option String
  deriving DecidableEq, Repr

namespace MoneyGram

def check (d : MoneyGram) : Check := do
  Check.name "holder_name" d.holderName
  Check.email "email" d.email
  Check.optionalText "state" d.state 2 50

def profile (country : String) (d : MoneyGram) : Profile where
  rail := .moneyGram
  country := some country
  currency := some (.selectedMany d.selectedCurrencyCodes)
  bank := none
  identity :=
    whenPresent "state" d.state
      ++ [("holder_name", d.holderName), ("email", d.email)]
  summary :=
    [("Holder name", d.holderName), ("Email", d.email)]
      ++ whenPresent "State" d.state
      ++ [("Currencies", joinCodes d.selectedCurrencyCodes)]
  hint := d.email

end MoneyGram

/-- MoneyBeam between accounts of one bank. -/
structure MoneyBeam where
  selectedCurrencyCode : String
  holderName : String
  accountId : String
  deriving DecidableEq, Repr

namespace MoneyBeam

def check (d : MoneyBeam) : Check := do
  Check.name "holder_name" d.holderName
  Check.requiredText "account_id" d.accountId 2 100

def profile (country : String) (d : MoneyBeam) : Profile where
  rail := .moneyBeam
  country := some country
  currency := some (.selected d.selectedCurrencyCode)
  bank := none
  identity := [("account_id", d.accountId), ("holder_name", d.holderName)]
  summary :=
    [("Holder name", d.holderName), ("Account ID", d.accountId),
     ("Currency", d.selectedCurrencyCode)]
  hint := d.accountId

end MoneyBeam

/-- Pin4, in Poland: cash from a machine, with a code sent to a mobile
number. -/
structure Pin4 where
  mobileNr : String
  deriving DecidableEq, Repr

namespace Pin4

def check (d : Pin4) : Check :=
  Check.phone "mobile_nr" d.mobileNr

def profile (d : Pin4) : Profile where
  rail := .pin4
  country := some "PL"
  currency := some (.fixed "PLN")
  bank := none
  identity := [("mobile_nr", d.mobileNr)]
  summary := [("Mobile no.", d.mobileNr)]
  hint := d.mobileNr

end Pin4

/-- An international wire transfer, through another bank where one is named. -/
structure Swift where
  selectedCurrencyCode : String
  beneficiaryName : String
  beneficiaryAccountNr : String
  beneficiaryPhone : Option String
  beneficiaryAddress : String
  bankSwiftCode : String
  bankName : String
  bankBranch : Option String
  bankAddress : String
  intermediaryBankCountryCode : Option String
  intermediaryBankSwiftCode : Option String
  intermediaryBankName : Option String
  intermediaryBankBranch : Option String
  intermediaryBankAddress : Option String
  additionalInstructions : Option String
  deriving DecidableEq, Repr

namespace Swift

def check (d : Swift) : Check := do
  Check.name "beneficiary_name" d.beneficiaryName
  Check.requiredText "beneficiary_account_nr" d.beneficiaryAccountNr 2 50
  Check.optionalText "beneficiary_phone" d.beneficiaryPhone 5 30
  Check.address "beneficiary_address" d.beneficiaryAddress
  Check.requiredText "bank_swift_code" d.bankSwiftCode 8 11
  Check.requiredText "bank_name" d.bankName 2 100
  Check.optionalText "bank_branch" d.bankBranch 2 100
  Check.address "bank_address" d.bankAddress
  match d.intermediaryBankCountryCode with
  | some code => Check.countryCode "intermediary_bank_country_code" code
  | none => Check.pass
  Check.optionalText "intermediary_bank_swift_code"
    d.intermediaryBankSwiftCode 8 11
  Check.optionalText "intermediary_bank_name" d.intermediaryBankName 2 100
  Check.optionalText "intermediary_bank_branch" d.intermediaryBankBranch 2 100
  Check.optionalText "intermediary_bank_address" d.intermediaryBankAddress 5 200
  Check.optionalText "additional_instructions" d.additionalInstructions 2 300

def profile (country : String) (d : Swift) : Profile where
  rail := .swift
  country := some country
  currency := some (.selected d.selectedCurrencyCode)
  bank := none
  identity := [("beneficiary_account_nr", d.beneficiaryAccountNr)]
  summary :=
    [("Currency", d.selectedCurrencyCode),
     ("Beneficiary name", d.beneficiaryName),
     ("Beneficiary account no.", d.beneficiaryAccountNr),
     ("Beneficiary address", d.beneficiaryAddress),
     ("Bank SWIFT code", d.bankSwiftCode), ("Bank name", d.bankName),
     ("Bank address", d.bankAddress)]
      ++ whenPresent "Beneficiary phone" d.beneficiaryPhone
      ++ whenPresent "Bank branch" d.bankBranch
      ++ whenPresent "Intermediary bank country" d.intermediaryBankCountryCode
      ++ whenPresent "Intermediary bank SWIFT code" d.intermediaryBankSwiftCode
      ++ whenPresent "Intermediary bank name" d.intermediaryBankName
      ++ whenPresent "Intermediary bank branch" d.intermediaryBankBranch
      ++ whenPresent "Intermediary bank address" d.intermediaryBankAddress
      ++ whenPresent "Additional instructions" d.additionalInstructions
  hint := d.bankSwiftCode

end Swift

end FiatAccounts

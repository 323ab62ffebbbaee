/-
The instruments that are bound to no declared country: what each consists of,
when its fields are sound and what its profile says. Where a rail works in one
currency only, the profile fixes it.
-/
import FiatAccounts.Check.Contact
import FiatAccounts.Instrument.Profile

namespace FiatAccounts

/-- Zelle, in the United States: paid to an e-mail address or a mobile
number. -/
structure Zelle where
  holderName : String
  emailOrMobileNr : String
  deriving DecidableEq, Repr

namespace Zelle

def check (d : Zelle) : Check := do
  Check.name "holder_name" d.holderName
  Check.emailOrPhone "email_or_mobile_nr" d.emailOrMobileNr

def profile (d : Zelle) : Profile where
  rail := .zelle
  country := none
  currency := some (.fixed "USD")
  bank := none
  identity := [("email_or_mobile_nr", d.emailOrMobileNr)]
  summary :=
    [("Holder name", d.holderName), ("Email or mobile no.", d.emailOrMobileNr)]
  hint := d.emailOrMobileNr

end Zelle

/-- A money order of the United States post, sent to an address. -/
structure UsPostalMoneyOrder where
  holderName : String
  postalAddress : String
  deriving DecidableEq, Repr

namespace UsPostalMoneyOrder

def check (d : UsPostalMoneyOrder) : Check := do
  Check.name "holder_name" d.holderName
  Check.address "postal_address" d.postalAddress

def profile (d : UsPostalMoneyOrder) : Profile where
  rail := .usPostalMoneyOrder
  country := none
  currency := some (.fixed "USD")
  bank := none
  identity :=
    [("holder_name", d.holderName), ("postal_address", d.postalAddress)]
  summary :=
    [("Holder name", d.holderName), ("Postal address", d.postalAddress)]
  hint := d.holderName

end UsPostalMoneyOrder

/-- PayID, in Australia. -/
structure PayId where
  holderName : String
  payId : String
  deriving DecidableEq, Repr

namespace PayId

def check (d : PayId) : Check := do
  Check.name "holder_name" d.holderName
  Check.requiredText "pay_id" d.payId 2 100

def profile (d : PayId) : Profile where
  rail := .payId
  country := none
  currency := some (.fixed "AUD")
  bank := none
  identity := [("pay_id", d.payId), ("holder_name", d.holderName)]
  summary := [("Holder name", d.holderName), ("PayID", d.payId)]
  hint := d.payId

end PayId

/-- Interac e-Transfer, in Canada: sent to an e-mail address, released by an
answer to a question. -/
structure InteracETransfer where
  holderName : String
  email : String
  question : String
  answer : String
  deriving DecidableEq, Repr

namespace InteracETransfer

def check (d : InteracETransfer) : Check := do
  Check.name "holder_name" d.holderName
  Check.email "email" d.email
  Check.requiredText "question" d.question 1 40
  Check.requiredText "answer" d.answer 3 25

def profile (d : InteracETransfer) : Profile where
  rail := .interacETransfer
  country := none
  currency := some (.fixed "CAD")
  bank := none
  identity :=
    [("email", d.email), ("question", d.question), ("answer", d.answer)]
  summary :=
    [("Holder name", d.holderName), ("Email", d.email),
     ("Secret question", d.question), ("Answer", d.answer)]
  hint := d.email

end InteracETransfer

/-- HalCash, in Spain: cash from a machine, with a code sent to a mobile
number. -/
structure HalCash where
  mobileNr : String
  deriving DecidableEq, Repr

namespace HalCash

def check (d : HalCash) : Check :=
  Check.phone "mobile_nr" d.mobileNr

def profile (d : HalCash) : Profile where
  rail := .halCash
  country := none
  currency := some (.fixed "EUR")
  bank := none
  identity := [("mobile_nr", d.mobileNr)]
  summary := [("Mobile no.", d.mobileNr)]
  hint := d.mobileNr

end HalCash

/-- Faster Payments, in the United Kingdom. -/
structure FasterPayments where
  holderName : String
  sortCode : String
  accountNr : String
  deriving DecidableEq, Repr

namespace FasterPayments

def check (d : FasterPayments) : Check := do
  Check.name "holder_name" d.holderName
  Check.digits "sort_code" d.sortCode 6 6
  Check.digits "account_nr" d.accountNr 8 8

def profile (d : FasterPayments) : Profile where
  rail := .fasterPayments
  country := none
  currency := some (.fixed "GBP")
  bank := none
  identity := [("sort_code", d.sortCode), ("account_nr", d.accountNr)]
  summary :=
    [("Holder name", d.holderName), ("UK sort code", d.sortCode),
     ("Account number", d.accountNr)]
  hint := d.accountNr

end FasterPayments

/-- The Faster Payments System of Russia: paid to a mobile number at a named
bank. -/
structure Sbp where
  holderName : String
  mobileNumber : String
  bankName : String
  deriving DecidableEq, Repr

namespace Sbp

def check (d : Sbp) : Check := do
  Check.name "holder_name" d.holderName
  Check.phone "mobile_number" d.mobileNumber
  Check.requiredText "bank_name" d.bankName 2 100

def profile (d : Sbp) : Profile where
  rail := .sbp
  country := none
  currency := some (.fixed "RUB")
  bank := none
  identity := [("mobile_number", d.mobileNumber), ("bank_name", d.bankName)]
  summary :=
    [("Holder name", d.holderName), ("Mobile no.", d.mobileNumber),
     ("Bank name", d.bankName)]
  hint := d.mobileNumber

end Sbp

/-- Banknotes in a letter, in whatever currency the trade is in. -/
structure CashByMail where
  postalAddress : String
  contact : String
  extraInfo : Option String
  deriving DecidableEq, Repr

namespace CashByMail

def check (d : CashByMail) : Check := do
  Check.address "postal_address" d.postalAddress
  Check.requiredText "contact" d.contact 2 100
  Check.optionalText "extra_info" d.extraInfo 1 300

def profile (d : CashByMail) : Profile where
  rail := .cashByMail
  country := none
  currency := none
  bank := none
  identity := [("contact", d.contact), ("postal_address", d.postalAddress)]
  summary :=
    [("Postal address", d.postalAddress), ("Contact", d.contact)]
      ++ whenPresent "Additional information" d.extraInfo
  hint := d.contact

end CashByMail

/-- Revolut, in the currencies that its owner picks. -/
structure Revolut where
  userName : String
  selectedCurrencyCodes : List String
  deriving DecidableEq, Repr

namespace Revolut

def check (d : Revolut) : Check :=
  Check.requiredText "user_name" d.userName 2 100

def profile (d : Revolut) : Profile where
  rail := .revolut
  country := none
  currency := some (.selectedMany d.selectedCurrencyCodes)
  bank := none
  identity := [("user_name", d.userName)]
  summary :=
    [("Username", d.userName),
     ("Currencies", joinCodes d.selectedCurrencyCodes)]
  hint := d.userName

end Revolut

/-- Uphold, in the currencies that its owner picks. -/
structure Uphold where
  selectedCurrencyCodes : List String
  holderName : String
  accountId : String
  deriving DecidableEq, Repr

namespace Uphold

def check (d : Uphold) : Check := do
  Check.name "holder_name" d.holderName
  Check.requiredText "account_id" d.accountId 2 100

def profile (d : Uphold) : Profile where
  rail := .uphold
  country := none
  currency := some (.selectedMany d.selectedCurrencyCodes)
  bank := none
  identity := [("account_id", d.accountId)]
  summary :=
    [("Holder name", d.holderName), ("Account ID", d.accountId),
     ("Currencies", joinCodes d.selectedCurrencyCodes)]
  hint := d.accountId

end Uphold

/-- A way to pay that its owner describes in words. -/
structure UserDefinedFiat where
  accountData : String
  deriving DecidableEq, Repr

namespace UserDefinedFiat

def check (d : UserDefinedFiat) : Check :=
  Check.requiredText "account_data" d.accountData 1 1000

def profile (d : UserDefinedFiat) : Profile where
  rail := .custom
  country := none
  currency := none
  bank := none
  identity := [("account_data", d.accountData)]
  summary := [("Account details", d.accountData)]
  hint := d.accountData

end UserDefinedFiat

end FiatAccounts

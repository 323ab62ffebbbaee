/-
The payment instruments as one closed type of three levels: instruments bound
to no country, instruments bound to one, and among the latter those that are
bank accounts. What a kind of instrument is decided by its own module; here the
kinds are put together, each with its profile and the verdict on its fields.
-/
import FiatAccounts.Instrument.Bank
import FiatAccounts.Instrument.CountryBound
import FiatAccounts.Instrument.Flat

namespace FiatAccounts

-- ==================================================== the three levels

/-- The level on which a kind of instrument stands. -/
inductive Family where
  | flat
  | countryBased
  | bank
  deriving DecidableEq, Repr

def Family.name : Family → String
  | .flat => "Flat"
  | .countryBased => "CountryBased"
  | .bank => "Bank"

/-- Bank accounts. -/
inductive BankInstrument where
  | achTransfer (d : UsTransfer)
  | nationalBank (d : BankDetails)
  | cashDeposit (d : CashDeposit)
  | sameBank (d : BankDetails)
  | domesticWireTransfer (d : UsTransfer)
  deriving DecidableEq, Repr

/-- Instruments bound to a country. -/
inductive CountryInstrument where
  | bank (b : BankInstrument)
  | amazonGiftCard (d : InCountry AmazonGiftCard)
  | swish (d : Swish)
  | sepa (d : InCountry Sepa)
  | sepaInstant (d : InCountry Sepa)
  | bizum (d : Bizum)
  | f2f (d : InCountry F2f)
  | pix (d : Pix)
  | promptPay (d : PromptPay)
  | strike (d : Strike)
  | upi (d : Upi)
  | wise (d : InCountry Wise)
  | wiseUsd (d : WiseUsd)
  | moneyGram (d : InCountry MoneyGram)
  | moneyBeam (d : InCountry MoneyBeam)
  | pin4 (d : Pin4)
  | swift (d : InCountry Swift)
  deriving DecidableEq, Repr

/-- Every payment instrument. -/
inductive Instrument where
  | zelle (d : Zelle)
  | usPostalMoneyOrder (d : UsPostalMoneyOrder)
  | payId (d : PayId)
  | interacETransfer (d : InteracETransfer)
  | halCash (d : HalCash)
  | fasterPayments (d : FasterPayments)
  | sbp (d : Sbp)
  | cashByMail (d : CashByMail)
  | revolut (d : Revolut)
  | uphold (d : Uphold)
  | userDefinedFiat (d : UserDefinedFiat)
  | countryBased (c : CountryInstrument)
  deriving DecidableEq, Repr

-- ======================================================= bank accounts

namespace BankInstrument

def details : BankInstrument → BankDetails
  | .achTransfer d => d.bank
  | .nationalBank d => d
  | .cashDeposit d => d.bank
  | .sameBank d => d
  | .domesticWireTransfer d => d.bank

def profile : BankInstrument → Profile
  | .achTransfer d => d.profile .achTransfer
  | .nationalBank d => d.profile .nationalBank (.selected d.currency) []
  | .cashDeposit d =>
    d.bank.profile .cashDeposit (.selected d.bank.currency)
      (whenPresent "Requirements" d.requirements)
  | .sameBank d => d.profile .sameBank (.selected d.currency) []
  | .domesticWireTransfer d => d.profile .domesticWireTransfer

def verifyFields : BankInstrument → Except AccountError Unit
  | .achTransfer d => d.verifyAch
  | .nationalBank d => d.checkRequired.raise
  | .cashDeposit d => d.check.raise
  | .sameBank d => d.checkRequired.raise
  | .domesticWireTransfer d => d.verifyWire

/-- What is checked ahead of everything else: the routing number, where there
is one. -/
def checkFirst : BankInstrument → Check
  | .achTransfer d => d.checkRoutingNr
  | .domesticWireTransfer d => d.checkRoutingNr
  | .nationalBank _ => Check.pass
  | .cashDeposit _ => Check.pass
  | .sameBank _ => Check.pass

def family (_ : BankInstrument) : Family := .bank

end BankInstrument

-- ============================================ instruments of a country

namespace CountryInstrument

def profile : CountryInstrument → Profile
  | .bank b => b.profile
  | .amazonGiftCard d => d.details.profile d.country
  | .swish d => d.profile
  | .sepa d => d.details.profile .sepa d.country
  | .sepaInstant d => d.details.profile .sepaInstant d.country
  | .bizum d => d.profile
  | .f2f d => d.details.profile d.country
  | .pix d => d.profile
  | .promptPay d => d.profile
  | .strike d => d.profile
  | .upi d => d.profile
  | .wise d => d.details.profile d.country
  | .wiseUsd d => d.profile
  | .moneyGram d => d.details.profile d.country
  | .moneyBeam d => d.details.profile d.country
  | .pin4 d => d.profile
  | .swift d => d.details.profile d.country

def verifyFields : CountryInstrument → Except AccountError Unit
  | .bank b => b.verifyFields
  | .amazonGiftCard d => d.details.check.raise
  | .swish d => d.check.raise
  | .sepa d => (d.details.check d.country).raise
  | .sepaInstant d => (d.details.check d.country).raise
  | .bizum d => d.check.raise
  | .f2f d => d.details.check.raise
  | .pix d => d.check.raise
  | .promptPay d => d.check.raise
  | .strike d => d.check.raise
  | .upi d => d.check.raise
  | .wise d => d.details.check.raise
  | .wiseUsd d => d.check.raise
  | .moneyGram d => d.details.check.raise
  | .moneyBeam d => d.details.check.raise
  | .pin4 d => d.check.raise
  | .swift d => d.details.check.raise

def checkFirst : CountryInstrument → Check
  | .bank b => b.checkFirst
  | _ => Check.pass

def family : CountryInstrument → Family
  | .bank b => b.family
  | _ => .countryBased

end CountryInstrument

-- ===================================================== all instruments

namespace Instrument

def profile : Instrument → Profile
  | .zelle d => d.profile
  | .usPostalMoneyOrder d => d.profile
  | .payId d => d.profile
  | .interacETransfer d => d.profile
  | .halCash d => d.profile
  | .fasterPayments d => d.profile
  | .sbp d => d.profile
  | .cashByMail d => d.profile
  | .revolut d => d.profile
  | .uphold d => d.profile
  | .userDefinedFiat d => d.profile
  | .countryBased c => c.profile

/-- The rules of the instrument's own kind. -/
def verifyFields : Instrument → Except AccountError Unit
  | .zelle d => d.check.raise
  | .usPostalMoneyOrder d => d.check.raise
  | .payId d => d.check.raise
  | .interacETransfer d => d.check.raise
  | .halCash d => d.check.raise
  | .fasterPayments d => d.check.raise
  | .sbp d => d.check.raise
  | .cashByMail d => d.check.raise
  | .revolut d => d.check.raise
  | .uphold d => d.check.raise
  | .userDefinedFiat d => d.check.raise
  | .countryBased c => c.verifyFields

def checkFirst : Instrument → Check
  | .countryBased c => c.checkFirst
  | _ => Check.pass

def family : Instrument → Family
  | .countryBased c => c.family
  | _ => .flat

def rail (i : Instrument) : Rail := i.profile.rail

/-- The families of the instrument and of the instruments of the levels below
it, from the outside in. -/
def families (i : Instrument) : List Family :=
  match i with
  | .countryBased (.bank b) =>
    [i.family, CountryInstrument.family (.bank b), b.family]
  | .countryBased c => [i.family, c.family]
  | _ => [i.family]

end Instrument

end FiatAccounts

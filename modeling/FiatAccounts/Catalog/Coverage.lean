/-
Where each rail can be used: the countries it reaches and the currencies it
settles. A rail covers either a list of codes or every code that its catalog
knows.
-/
import FiatAccounts.Catalog.Country
import FiatAccounts.Catalog.Currency
import FiatAccounts.Catalog.Rail

namespace FiatAccounts

/-- The codes that a rail accepts. -/
inductive Coverage where
  | all
  | only (codes : List String)
  deriving DecidableEq, Repr

/-- Whether a code is covered, where `all` stands for the codes that `known`
accepts. -/
def Coverage.covers (known : String → Bool) (code : String) : Coverage → Bool
  | .all => known code
  | .only codes => codes.contains code

/-- The codes covered, where `all` stands for the given ones. -/
def Coverage.resolve (everything : List String) : Coverage → List String
  | .all => everything
  | .only codes => codes

namespace Rail

-- ====================================================== lists of codes

/-- The single euro payments area, as the rails list it. -/
def sepaCountries : List String :=
  ["AD", "AT", "BE", "BG", "CH", "CY", "CZ", "DE", "DK", "EE", "ES", "FI",
   "FR", "GB", "GI", "GR", "HR", "HU", "IE", "IS", "IT", "JE", "LI", "LT",
   "LU", "LV", "MC", "MT", "NL", "NO", "PL", "PT", "RO", "SE", "SI", "SK",
   "SM", "VA"]

def revolutCountries : List String :=
  ["AT", "BE", "BG", "HR", "CY", "CZ", "DK", "EE", "FI", "FR", "DE", "GR",
   "HU", "IS", "IE", "IT", "LV", "LI", "LT", "LU", "MT", "NL", "NO", "PL",
   "PT", "RO", "SK", "SI", "ES", "SE", "GB", "AU", "CA", "SG", "CH", "US"]

def revolutCurrencies : List String :=
  ["AED", "AUD", "BGN", "CAD", "CHF", "CZK", "DKK", "EUR", "GBP", "HKD", "HUF",
   "ILS", "ISK", "JPY", "MAD", "MXN", "NOK", "NZD", "PLN", "QAR", "RON", "RSD",
   "RUB", "SAR", "SEK", "SGD", "THB", "TRY", "USD", "ZAR"]

def wiseCountries : List String :=
  ["AR", "AU", "BD", "BR", "BG", "CA", "CL", "CN", "CO", "CR", "CZ", "DK",
   "EG", "GE", "GH", "HK", "HU", "IN", "ID", "IL", "JP", "KE", "MY", "MX",
   "MA", "NP", "NZ", "NO", "PK", "PH", "PL", "RO", "SG", "ZA", "KR", "LK",
   "SE", "CH", "TZ", "TH", "TR", "UG", "UA", "AE", "GB", "US", "UY", "VN",
   "ZM", "AT", "BE", "CY", "DE", "EE", "FI", "FR", "GR", "IE", "IT", "LV",
   "LT", "LU", "MC", "MT", "NL", "PT", "SK", "SI", "ES", "AD", "SM", "VA"]

def wiseCurrencies : List String :=
  ["AED", "ARS", "AUD", "BDT", "BGN", "BRL", "BWP", "CAD", "CHF", "CLP", "CNY",
   "COP", "CRC", "CZK", "DKK", "EGP", "EUR", "FJD", "GEL", "GHS", "GBP", "HKD",
   "HUF", "IDR", "ILS", "INR", "JPY", "KES", "KRW", "LKR", "MAD", "MXN", "MYR",
   "NOK", "NPR", "NZD", "PHP", "PKR", "PLN", "RON", "SEK", "SGD", "THB", "TRY",
   "UAH", "UGX", "USD", "UYU", "VND", "ZAR", "ZMW"]

def upholdCountries : List String :=
  ["AD", "AE", "AG", "AI", "AL", "AO", "AR", "AS", "AT", "AU", "AW", "BB",
   "BD", "BE", "BF", "BG", "BH", "BI", "BJ", "BN", "BO", "BR", "BS", "BT",
   "BW", "BY", "BZ", "CK", "CL", "CR", "CW", "CX", "CY", "CZ", "DJ", "DK",
   "DM", "DO", "DZ", "EE", "ES", "FI", "FJ", "FK", "FM", "FO", "FR", "GA",
   "GB", "GD", "GG", "GH", "GI", "GL", "GM", "GP", "GQ", "GR", "GT", "GU",
   "GW", "GY", "HK", "HN", "HR", "HT", "HU", "IE", "IL", "IM", "IS", "IT",
   "JE", "JM", "JO", "JP", "KE", "KI", "KM", "KN", "KP", "KR", "KW", "KY",
   "KZ", "LA", "LC", "LI", "LK", "LS", "LT", "LU", "LV", "MA", "MC", "MG",
   "MH", "MK", "ML", "MM", "MO", "MP", "MQ", "MR", "MS", "MT", "MU", "MV",
   "MW", "MX", "MY", "MZ", "NA", "NC", "NE", "NF", "NI", "NL", "NO", "NP",
   "NR", "NU", "NZ", "OM", "PE", "PF", "PG", "PH", "PL", "PM", "PN", "PR",
   "PT", "PW", "PY", "QA", "RE", "RO", "RW", "SA", "SB", "SC", "SD", "SE",
   "SG", "SH", "SI", "SJ", "SK", "SM", "SN", "SR", "ST", "SV", "SX", "SY",
   "SZ", "TC", "TF", "TH", "TJ", "TK", "TL", "TM", "TN", "TO", "TR", "TT",
   "TV", "TW", "TZ", "US", "UY", "UZ", "VA", "VC", "VG", "VI", "VU", "WF",
   "WS", "YE", "YT", "ZA", "ZM"]

def upholdCurrencies : List String :=
  ["AED", "ARS", "AUD", "BRL", "CAD", "CHF", "CNY", "DKK", "EUR", "GBP", "HKD",
   "ILS", "INR", "JPY", "KES", "MXN", "NOK", "NZD", "PHP", "PLN", "SEK", "SGD",
   "USD"]

def amazonCountries : List String :=
  ["AU", "CA", "FR", "DE", "IT", "NL", "ES", "GB", "IN", "JP", "SA", "SE",
   "SG", "TR", "US"]

def amazonCurrencies : List String :=
  ["AUD", "CAD", "EUR", "GBP", "INR", "JPY", "SAR", "SEK", "SGD", "TRY", "USD"]

def moneyBeamCurrencies : List String :=
  ["EUR", "GBP"]

def moneyGramCountries : List String :=
  ["AE", "AR", "AU", "KI", "NR", "TV", "BN", "CA", "CH", "LI", "CZ", "DK",
   "FO", "GL", "AD", "AT", "BE", "CY", "EE", "FI", "FR", "DE", "GR", "IE",
   "IT", "LV", "LT", "LU", "MT", "MC", "ME", "NL", "PT", "SM", "SK", "SI",
   "ES", "VA", "FJ", "GB", "GG", "IM", "JE", "HK", "HU", "ID", "IL", "IN",
   "JP", "KR", "KW", "LK", "MA", "MG", "MX", "MY", "NO", "NZ", "OM", "PE",
   "PG", "PH", "PK", "PL", "SA", "SB", "SC", "SE", "SG", "TH", "TO", "TR",
   "TW", "US", "VN", "VU", "WS", "BJ", "BF", "ML", "NE", "SN", "TG", "PF",
   "NC", "WF", "ZA"]

def moneyGramCurrencies : List String :=
  ["AED", "ARS", "AUD", "BND", "CAD", "CHF", "CZK", "DKK", "EUR", "FJD", "GBP",
   "HKD", "HUF", "IDR", "ILS", "INR", "JPY", "KRW", "KWD", "LKR", "MAD", "MGA",
   "MXN", "MYR", "NOK", "NZD", "OMR", "PEN", "PGK", "PHP", "PKR", "PLN", "SAR",
   "SBD", "SCR", "SEK", "SGD", "THB", "TOP", "TRY", "TWD", "USD", "VND", "VUV",
   "WST", "XOF", "XPF", "ZAR"]

def advancedCashCurrencies : List String :=
  ["BRL", "EUR", "GBP", "KZT", "RUB", "UAH", "USD"]

def moneseCurrencies : List String :=
  ["EUR", "GBP", "RON"]

def payseraCurrencies : List String :=
  ["AUD", "BGN", "BYN", "CAD", "CHF", "CNY", "CZK", "DKK", "EUR", "GBP", "HKD",
   "HUF", "ILS", "INR", "JPY", "KZT", "MXN", "NOK", "NZD", "PHP", "PLN", "RON",
   "RSD", "RUB", "SEK", "SGD", "THB", "TRY", "USD", "ZAR"]

def verseCurrencies : List String :=
  ["DKK", "EUR", "HUF", "PLN", "SEK"]

-- ============================================================ coverage

def countries : Rail → Coverage
  | .achTransfer | .cashApp | .domesticWireTransfer | .strike
  | .usPostalMoneyOrder | .wiseUsd | .zelle => .only ["US"]
  | .aliPay | .wechatPay => .only ["CN"]
  | .amazonGiftCard => .only amazonCountries
  | .bizum | .halCash => .only ["ES"]
  | .fasterPayments => .only ["GB"]
  | .imps | .neft | .upi => .only ["IN"]
  | .interacETransfer => .only ["CA"]
  | .mercadoPago => .only ["AR"]
  | .moneyBeam | .sepa | .sepaInstant => .only sepaCountries
  | .moneyGram => .only moneyGramCountries
  | .payId => .only ["AU"]
  | .pin4 => .only ["PL"]
  | .pix => .only ["BR"]
  | .promptPay => .only ["TH"]
  | .revolut => .only revolutCountries
  | .satispay => .only ["IT"]
  | .sbp => .only ["RU"]
  | .swish => .only ["SE"]
  | .uphold => .only upholdCountries
  | .wise => .only wiseCountries
  | .advancedCash | .cashByMail | .cashDeposit | .custom | .f2f | .monese
  | .nationalBank | .paysera | .perfectMoney | .sameBank | .swift
  | .verse => .all

def currencies : Rail → Coverage
  | .achTransfer | .cashApp | .domesticWireTransfer | .perfectMoney | .strike
  | .usPostalMoneyOrder | .wiseUsd | .zelle => .only ["USD"]
  | .advancedCash => .only advancedCashCurrencies
  | .aliPay | .wechatPay => .only ["CNY"]
  | .amazonGiftCard => .only amazonCurrencies
  | .bizum | .halCash | .satispay | .sepa | .sepaInstant => .only ["EUR"]
  | .fasterPayments => .only ["GBP"]
  | .imps | .neft | .upi => .only ["INR"]
  | .interacETransfer => .only ["CAD"]
  | .mercadoPago => .only ["ARS"]
  | .monese => .only moneseCurrencies
  | .moneyBeam => .only moneyBeamCurrencies
  | .moneyGram => .only moneyGramCurrencies
  | .payId => .only ["AUD"]
  | .paysera => .only payseraCurrencies
  | .pin4 => .only ["PLN"]
  | .pix => .only ["BRL"]
  | .promptPay => .only ["THB"]
  | .revolut => .only revolutCurrencies
  | .sbp => .only ["RUB"]
  | .swish => .only ["SEK"]
  | .uphold => .only upholdCurrencies
  | .verse => .only verseCurrencies
  | .wise => .only wiseCurrencies
  | .cashByMail | .cashDeposit | .custom | .f2f | .nationalBank | .sameBank
  | .swift => .all

def supportsCountry (rail : Rail) (code : String) : Bool :=
  rail.countries.covers Country.isKnown code

def supportsCurrency (rail : Rail) (code : String) : Bool :=
  rail.currencies.covers Currency.isKnown code

def countryCodes (rail : Rail) : List String :=
  rail.countries.resolve Country.codes

def currencyCodes (rail : Rail) : List String :=
  rail.currencies.resolve Currency.codes

/-- The rails on which a currency can be paid. Transfers between the banks of
one country are offered for every code but the euro's, which has the rails of
its own area. -/
def forCurrency (code : String) : List Rail :=
  all.filter fun rail =>
    if rail = .nationalBank then code != "EUR" else rail.supportsCurrency code

/-- The rails that reach a country. -/
def forCountry (code : String) : List Rail :=
  all.filter fun rail => rail.supportsCountry code

end Rail

end FiatAccounts

/-
The payment rails: the ways in which money of a national currency can change
hands. The set is closed and some of its members have no kind of account yet.
Each rail has its name on the wire, its names on the screen and its place in
trading.

Fingerprints of older accounts were made with other names for a few rails
(`methodId`), so those names never change.
-/
import FiatAccounts.Error

namespace FiatAccounts

inductive Rail where
  | achTransfer
  | advancedCash
  | aliPay
  | amazonGiftCard
  | bizum
  | cashApp
  | cashByMail
  | cashDeposit
  | custom
  | domesticWireTransfer
  | f2f
  | fasterPayments
  | halCash
  | imps
  | interacETransfer
  | mercadoPago
  | monese
  | moneyBeam
  | moneyGram
  | nationalBank
  | neft
  | payId
  | paysera
  | perfectMoney
  | pin4
  | pix
  | promptPay
  | revolut
  | sameBank
  | satispay
  | sbp
  | sepa
  | sepaInstant
  | strike
  | swift
  | swish
  | uphold
  | upi
  | usPostalMoneyOrder
  | verse
  | wechatPay
  | wise
  | wiseUsd
  | zelle
  deriving DecidableEq, Repr

namespace Rail

/-- Every rail, in the order in which rails are listed. -/
def all : List Rail :=
  [.achTransfer, .advancedCash, .aliPay, .amazonGiftCard, .bizum, .cashApp,
   .cashByMail, .cashDeposit, .custom, .domesticWireTransfer, .f2f,
   .fasterPayments, .halCash, .imps, .interacETransfer, .mercadoPago, .monese,
   .moneyBeam, .moneyGram, .nationalBank, .neft, .payId, .paysera,
   .perfectMoney, .pin4, .pix, .promptPay, .revolut, .sameBank, .satispay,
   .sbp, .sepa, .sepaInstant, .strike, .swift, .swish, .uphold, .upi,
   .usPostalMoneyOrder, .verse, .wechatPay, .wise, .wiseUsd, .zelle]

-- =============================================================== names

/-- The name on the wire. -/
def name : Rail → String
  | .achTransfer => "ACH_TRANSFER"
  | .advancedCash => "ADVANCED_CASH"
  | .aliPay => "ALI_PAY"
  | .amazonGiftCard => "AMAZON_GIFT_CARD"
  | .bizum => "BIZUM"
  | .cashApp => "CASH_APP"
  | .cashByMail => "CASH_BY_MAIL"
  | .cashDeposit => "CASH_DEPOSIT"
  | .custom => "CUSTOM"
  | .domesticWireTransfer => "DOMESTIC_WIRE_TRANSFER"
  | .f2f => "F2F"
  | .fasterPayments => "FASTER_PAYMENTS"
  | .halCash => "HAL_CASH"
  | .imps => "IMPS"
  | .interacETransfer => "INTERAC_E_TRANSFER"
  | .mercadoPago => "MERCADO_PAGO"
  | .monese => "MONESE"
  | .moneyBeam => "MONEY_BEAM"
  | .moneyGram => "MONEY_GRAM"
  | .nationalBank => "NATIONAL_BANK"
  | .neft => "NEFT"
  | .payId => "PAY_ID"
  | .paysera => "PAYSERA"
  | .perfectMoney => "PERFECT_MONEY"
  | .pin4 => "PIN_4"
  | .pix => "PIX"
  | .promptPay => "PROMPT_PAY"
  | .revolut => "REVOLUT"
  | .sameBank => "SAME_BANK"
  | .satispay => "SATISPAY"
  | .sbp => "SBP"
  | .sepa => "SEPA"
  | .sepaInstant => "SEPA_INSTANT"
  | .strike => "STRIKE"
  | .swift => "SWIFT"
  | .swish => "SWISH"
  | .uphold => "UPHOLD"
  | .upi => "UPI"
  | .usPostalMoneyOrder => "US_POSTAL_MONEY_ORDER"
  | .verse => "VERSE"
  | .wechatPay => "WECHAT_PAY"
  | .wise => "WISE"
  | .wiseUsd => "WISE_USD"
  | .zelle => "ZELLE"

/-- The name that opens a fingerprint. -/
def methodId : Rail → String
  | .zelle => "CLEAR_X_CHANGE"
  | .payId => "AUSTRALIA_PAYID"
  | .wise => "TRANSFERWISE"
  | .wiseUsd => "TRANSFERWISE_USD"
  | rail => rail.name

def displayName : Rail → String
  | .achTransfer => "ACH Transfer"
  | .advancedCash => "Advanced Cash"
  | .aliPay => "AliPay"
  | .amazonGiftCard => "Amazon eGift Card"
  | .bizum => "Bizum"
  | .cashApp => "Cash App"
  | .cashByMail => "Cash By Mail"
  | .cashDeposit => "Cash Deposit"
  | .custom => "Custom"
  | .domesticWireTransfer => "Domestic Wire Transfer"
  | .f2f => "Face to face (in person)"
  | .fasterPayments => "Faster Payments"
  | .halCash => "HalCash"
  | .imps => "India/IMPS"
  | .interacETransfer => "Interac e-Transfer"
  | .mercadoPago => "MercadoPago"
  | .monese => "Monese"
  | .moneyBeam => "MoneyBeam (N26)"
  | .moneyGram => "MoneyGram"
  | .nationalBank => "National bank transfer"
  | .neft => "India/NEFT"
  | .payId => "Australian PayID"
  | .paysera => "Paysera"
  | .perfectMoney => "Perfect Money"
  | .pin4 => "Pin4"
  | .pix => "Pix"
  | .promptPay => "PromptPay"
  | .revolut => "Revolut"
  | .sameBank => "Transfer with same bank"
  | .satispay => "Satispay"
  | .sbp => "Faster Payments System (SBP)"
  | .sepa => "SEPA"
  | .sepaInstant => "SEPA Instant Payments"
  | .strike => "Strike"
  | .swift => "SWIFT International Wire Transfer"
  | .swish => "Swish"
  | .uphold => "Uphold"
  | .upi => "India/UPI"
  | .usPostalMoneyOrder => "US Postal Money Order"
  | .verse => "Verse"
  | .wechatPay => "WeChat Pay"
  | .wise => "Wise"
  | .wiseUsd => "Wise-USD"
  | .zelle => "Zelle"

/-- The compact name that opens an account's default name. -/
def shortName : Rail → String
  | .achTransfer => "ACH"
  | .advancedCash => "AdvCash"
  | .amazonGiftCard => "Amazon"
  | .cashByMail => "CashByMail"
  | .cashDeposit => "CashDeposit"
  | .domesticWireTransfer => "Wire"
  | .f2f => "F2F"
  | .fasterPayments => "FPS"
  | .imps => "IMPS"
  | .interacETransfer => "Interac"
  | .moneyBeam => "MoneyBeam"
  | .nationalBank => "NationalBank"
  | .neft => "NEFT"
  | .payId => "PayID"
  | .perfectMoney => "PerfectMoney"
  | .sameBank => "SameBank"
  | .sbp => "SBP"
  | .sepaInstant => "SEPA-Inst"
  | .swift => "SWIFT"
  | .upi => "UPI"
  | .usPostalMoneyOrder => "USPMO"
  | .wiseUsd => "Wise-USD"
  | rail => rail.displayName

/-- The rail of a name on the wire. -/
def ofName? (text : String) : Option Rail :=
  all.find? fun rail => rail.name == text

/-- The rail of a name, or the refusal of the name. -/
def resolve (text : String) : Except AccountError Rail :=
  match ofName? text with
  | some rail => .ok rail
  | none => .error (.unresolvableVariant "payment rail" text)

-- ============================================================= trading

/-- How likely the sender of a completed payment can take it back. -/
inductive ChargebackRisk where
  | veryLow
  | low
  | moderate
  | medium
  deriving DecidableEq, Repr

namespace ChargebackRisk

def all : List ChargebackRisk := [.veryLow, .low, .moderate, .medium]

def name : ChargebackRisk → String
  | .veryLow => "VERY_LOW"
  | .low => "LOW"
  | .moderate => "MODERATE"
  | .medium => "MEDIUM"

def ofName? (text : String) : Option ChargebackRisk :=
  all.find? fun risk => risk.name == text

/-- The default limit of a trade, in US dollars. -/
def tradeLimit : ChargebackRisk → Nat
  | .low => 10000
  | .medium => 5000
  | .veryLow | .moderate => 2500

end ChargebackRisk

def chargebackRisk : Rail → ChargebackRisk
  | .advancedCash => .veryLow
  | .aliPay | .bizum | .f2f | .halCash | .payId | .perfectMoney | .pin4
  | .promptPay | .swish | .upi | .wechatPay => .low
  | .moneyGram | .swift => .medium
  | _ => .moderate

/-- Spans in milliseconds. -/
def hours (n : Nat) : Nat := n * 3600000

def days (n : Nat) : Nat := hours (24 * n)

/-- The longest time that a trade may take, in milliseconds. -/
def tradeDuration : Rail → Nat
  | .achTransfer => days 5
  | .cashByMail => days 8
  | .domesticWireTransfer => days 3
  | .sepa => days 6
  | .amazonGiftCard | .bizum | .cashApp | .cashDeposit | .custom | .f2f
  | .moneyGram | .nationalBank | .payId | .strike | .swift | .upi
  | .usPostalMoneyOrder | .wise | .wiseUsd | .zelle => days 4
  | _ => hours 24

/-- How common the rail is; an unranked rail scores zero. -/
def popularity : Rail → Nat
  | .sepa | .sepaInstant => 10
  | .zelle => 9
  | .pix => 8
  | .nationalBank => 7
  | .revolut | .cashByMail => 6
  | .achTransfer | .strike => 5
  | .interacETransfer | .wise | .wiseUsd => 4
  | .uphold | .f2f | .usPostalMoneyOrder | .domesticWireTransfer | .payId
  | .fasterPayments => 3
  | .amazonGiftCard | .moneyBeam | .swish | .swift | .bizum | .promptPay
  | .moneyGram | .cashDeposit | .sameBank | .halCash => 2
  | .pin4 | .upi => 1
  | _ => 0

/-- Kept only for the accounts that already use it. -/
def isDeprecated (rail : Rail) : Bool :=
  rail == .cashApp

end Rail

end FiatAccounts

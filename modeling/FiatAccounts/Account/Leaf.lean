/-
The single kinds of instrument, and where each of them stands.

A payload of one kind, and an account around it, are made without regard to the
levels above them. Each has a place of its own in the hierarchy of instruments
and in that of accounts. The two places are listed one apart from the other, so
that it is a law that they agree.
-/
import FiatAccounts.Account.Basic

namespace FiatAccounts

/-- The kinds of instrument that have no kinds below them. -/
inductive Leaf where
  | zelle
  | usPostalMoneyOrder
  | payId
  | interacETransfer
  | halCash
  | fasterPayments
  | sbp
  | cashByMail
  | revolut
  | uphold
  | userDefinedFiat
  | amazonGiftCard
  | swish
  | sepa
  | sepaInstant
  | bizum
  | f2f
  | pix
  | promptPay
  | strike
  | upi
  | wise
  | wiseUsd
  | moneyGram
  | moneyBeam
  | pin4
  | swift
  | achTransfer
  | nationalBank
  | cashDeposit
  | sameBank
  | domesticWireTransfer
  deriving DecidableEq, Repr

namespace Leaf

/-- What an instrument of the kind consists of. -/
def Fields : Leaf → Type
  | .zelle => Zelle
  | .usPostalMoneyOrder => UsPostalMoneyOrder
  | .payId => PayId
  | .interacETransfer => InteracETransfer
  | .halCash => HalCash
  | .fasterPayments => FasterPayments
  | .sbp => Sbp
  | .cashByMail => CashByMail
  | .revolut => Revolut
  | .uphold => Uphold
  | .userDefinedFiat => UserDefinedFiat
  | .amazonGiftCard => InCountry AmazonGiftCard
  | .swish => Swish
  | .sepa => InCountry Sepa
  | .sepaInstant => InCountry Sepa
  | .bizum => Bizum
  | .f2f => InCountry F2f
  | .pix => Pix
  | .promptPay => PromptPay
  | .strike => Strike
  | .upi => Upi
  | .wise => InCountry Wise
  | .wiseUsd => WiseUsd
  | .moneyGram => InCountry MoneyGram
  | .moneyBeam => InCountry MoneyBeam
  | .pin4 => Pin4
  | .swift => InCountry Swift
  | .achTransfer => UsTransfer
  | .nationalBank => BankDetails
  | .cashDeposit => CashDeposit
  | .sameBank => BankDetails
  | .domesticWireTransfer => UsTransfer

/-- The rail of the kind. -/
def rail : Leaf → Rail
  | .zelle => .zelle
  | .usPostalMoneyOrder => .usPostalMoneyOrder
  | .payId => .payId
  | .interacETransfer => .interacETransfer
  | .halCash => .halCash
  | .fasterPayments => .fasterPayments
  | .sbp => .sbp
  | .cashByMail => .cashByMail
  | .revolut => .revolut
  | .uphold => .uphold
  | .userDefinedFiat => .custom
  | .amazonGiftCard => .amazonGiftCard
  | .swish => .swish
  | .sepa => .sepa
  | .sepaInstant => .sepaInstant
  | .bizum => .bizum
  | .f2f => .f2f
  | .pix => .pix
  | .promptPay => .promptPay
  | .strike => .strike
  | .upi => .upi
  | .wise => .wise
  | .wiseUsd => .wiseUsd
  | .moneyGram => .moneyGram
  | .moneyBeam => .moneyBeam
  | .pin4 => .pin4
  | .swift => .swift
  | .achTransfer => .achTransfer
  | .nationalBank => .nationalBank
  | .cashDeposit => .cashDeposit
  | .sameBank => .sameBank
  | .domesticWireTransfer => .domesticWireTransfer

/-- An instrument of the kind as one of all instruments. -/
def instrument : (leaf : Leaf) → leaf.Fields → Instrument
  | .zelle, d => .zelle d
  | .usPostalMoneyOrder, d => .usPostalMoneyOrder d
  | .payId, d => .payId d
  | .interacETransfer, d => .interacETransfer d
  | .halCash, d => .halCash d
  | .fasterPayments, d => .fasterPayments d
  | .sbp, d => .sbp d
  | .cashByMail, d => .cashByMail d
  | .revolut, d => .revolut d
  | .uphold, d => .uphold d
  | .userDefinedFiat, d => .userDefinedFiat d
  | .amazonGiftCard, d => .countryBased (.amazonGiftCard d)
  | .swish, d => .countryBased (.swish d)
  | .sepa, d => .countryBased (.sepa d)
  | .sepaInstant, d => .countryBased (.sepaInstant d)
  | .bizum, d => .countryBased (.bizum d)
  | .f2f, d => .countryBased (.f2f d)
  | .pix, d => .countryBased (.pix d)
  | .promptPay, d => .countryBased (.promptPay d)
  | .strike, d => .countryBased (.strike d)
  | .upi, d => .countryBased (.upi d)
  | .wise, d => .countryBased (.wise d)
  | .wiseUsd, d => .countryBased (.wiseUsd d)
  | .moneyGram, d => .countryBased (.moneyGram d)
  | .moneyBeam, d => .countryBased (.moneyBeam d)
  | .pin4, d => .countryBased (.pin4 d)
  | .swift, d => .countryBased (.swift d)
  | .achTransfer, d => .countryBased (.bank (.achTransfer d))
  | .nationalBank, d => .countryBased (.bank (.nationalBank d))
  | .cashDeposit, d => .countryBased (.bank (.cashDeposit d))
  | .sameBank, d => .countryBased (.bank (.sameBank d))
  | .domesticWireTransfer, d =>
    .countryBased (.bank (.domesticWireTransfer d))

/-- A payload of the kind as one of all payloads. -/
def payload (leaf : Leaf) (p : Payload leaf.Fields) : Payload Instrument :=
  p.map leaf.instrument

/-- An account of the kind as one of all accounts. -/
def account : (leaf : Leaf) → Account leaf.Fields → PaymentAccount
  | .zelle, a => .zelle a
  | .usPostalMoneyOrder, a => .usPostalMoneyOrder a
  | .payId, a => .payId a
  | .interacETransfer, a => .interacETransfer a
  | .halCash, a => .halCash a
  | .fasterPayments, a => .fasterPayments a
  | .sbp, a => .sbp a
  | .cashByMail, a => .cashByMail a
  | .revolut, a => .revolut a
  | .uphold, a => .uphold a
  | .userDefinedFiat, a => .userDefinedFiat a
  | .amazonGiftCard, a => .countryBased (.amazonGiftCard a)
  | .swish, a => .countryBased (.swish a)
  | .sepa, a => .countryBased (.sepa a)
  | .sepaInstant, a => .countryBased (.sepaInstant a)
  | .bizum, a => .countryBased (.bizum a)
  | .f2f, a => .countryBased (.f2f a)
  | .pix, a => .countryBased (.pix a)
  | .promptPay, a => .countryBased (.promptPay a)
  | .strike, a => .countryBased (.strike a)
  | .upi, a => .countryBased (.upi a)
  | .wise, a => .countryBased (.wise a)
  | .wiseUsd, a => .countryBased (.wiseUsd a)
  | .moneyGram, a => .countryBased (.moneyGram a)
  | .moneyBeam, a => .countryBased (.moneyBeam a)
  | .pin4, a => .countryBased (.pin4 a)
  | .swift, a => .countryBased (.swift a)
  | .achTransfer, a => .countryBased (.bank (.achTransfer a))
  | .nationalBank, a => .countryBased (.bank (.nationalBank a))
  | .cashDeposit, a => .countryBased (.bank (.cashDeposit a))
  | .sameBank, a => .countryBased (.bank (.sameBank a))
  | .domesticWireTransfer, a =>
    .countryBased (.bank (.domesticWireTransfer a))

end Leaf

end FiatAccounts

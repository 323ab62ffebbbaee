/-
Payloads as messages and messages as payloads.

Every payload has a message. A message is a payload if each choice on its way
is made, its codes are known and the payload that its parts make obeys every
rule. An open choice is reported before anything else is looked at, the
outermost first. A country is written for every instrument that is bound to
one, so a message with another country than the instrument's own is refused.
-/
import FiatAccounts.Message.Payload
import FiatAccounts.Payload.Basic

namespace FiatAccounts

-- =========================================== from payloads to messages

/-- The alternative of a bank account. -/
def BankInstrument.arm : BankInstrument → Message.BankArm
  | .achTransfer d => .achTransfer d.holderAddress
  | .nationalBank _ => .nationalBank
  | .cashDeposit d => .cashDeposit d.requirements
  | .sameBank _ => .sameBank
  | .domesticWireTransfer d => .domesticWireTransfer d.holderAddress

/-- The message of a bank account; its country stands in the message around
it. -/
def BankInstrument.toMessage (b : BankInstrument) : Message.Bank where
  holderName := b.details.holderName
  holderId := b.details.holderId
  bankName := b.details.bankName
  bankId := b.details.bankId
  branchId := b.details.branchId
  accountNr := b.details.accountNr
  accountType := b.details.accountType.map BankAccountType.name
  nationalAccountId := b.details.nationalAccountId
  currency := b.details.currency
  arm := some b.arm

def CountryInstrument.arm : CountryInstrument → Message.CountryArm
  | .bank b => .bank b.toMessage
  | .amazonGiftCard d => .amazonGiftCard d.details
  | .swish d => .swish d
  | .sepa d => .sepa d.details
  | .sepaInstant d => .sepaInstant d.details
  | .bizum d => .bizum d
  | .f2f d => .f2f d.details
  | .pix d => .pix d
  | .promptPay d => .promptPay d
  | .strike d => .strike d
  | .upi d => .upi d
  | .wise d => .wise d.details
  | .wiseUsd d => .wiseUsd d
  | .moneyGram d => .moneyGram d.details
  | .moneyBeam d => .moneyBeam d.details
  | .pin4 d => .pin4 d
  | .swift d => .swift d.details

def CountryInstrument.toMessage (c : CountryInstrument) :
    Message.CountryBased where
  country := c.profile.country.getD ""
  arm := some c.arm

def Instrument.arm : Instrument → Message.PayloadArm
  | .zelle d => .zelle d
  | .usPostalMoneyOrder d => .usPostalMoneyOrder d
  | .payId d => .payId d
  | .interacETransfer d => .interacETransfer d
  | .halCash d => .halCash d
  | .fasterPayments d => .fasterPayments d
  | .sbp d => .sbp d
  | .cashByMail d => .cashByMail d
  | .revolut d => .revolut d
  | .uphold d => .uphold d
  | .userDefinedFiat d => .userDefinedFiat d
  | .countryBased c => .countryBased c.toMessage

/-- The message of a payload. -/
def Payload.toMessage (p : Payload Instrument) : Message.Payload where
  id := p.id
  salt := p.salt
  arm := some p.instrument.arm

-- =========================================== from messages to payloads

/-- The alternative that a choice made, or the refusal of an open choice. -/
def Message.chosen {α : Type} (level : String) :
    Option α → Except AccountError α
  | some arm => .ok arm
  | none => .error (.unresolvableVariant level "no variant set")

/-- The kind of account that a message names, if it names one. -/
def BankAccountType.ofMessage :
    Option String → Except AccountError (Option BankAccountType)
  | none => .ok none
  | some name =>
    match BankAccountType.ofName? name with
    | some kind => .ok (some kind)
    | none => .error (.decode (.unknownBankAccountType name))

def BankInstrument.ofMessage (country : String) (m : Message.Bank) :
    Except AccountError BankInstrument := do
  let arm ← Message.chosen "bank_payload" m.arm
  let accountType ← BankAccountType.ofMessage m.accountType
  let details : BankDetails :=
    { country := country
      currency := m.currency
      holderName := m.holderName
      holderId := m.holderId
      bankName := m.bankName
      bankId := m.bankId
      branchId := m.branchId
      accountNr := m.accountNr
      accountType := accountType
      nationalAccountId := m.nationalAccountId }
  match arm with
  | .achTransfer holderAddress => pure (.achTransfer ⟨details, holderAddress⟩)
  | .nationalBank => pure (.nationalBank details)
  | .cashDeposit requirements => pure (.cashDeposit ⟨details, requirements⟩)
  | .sameBank => pure (.sameBank details)
  | .domesticWireTransfer holderAddress =>
    pure (.domesticWireTransfer ⟨details, holderAddress⟩)

def CountryInstrument.ofMessage (m : Message.CountryBased) :
    Except AccountError CountryInstrument := do
  let arm ← Message.chosen "country_based_payload" m.arm
  match arm with
  | .bank b => (BankInstrument.ofMessage m.country b).map .bank
  | .amazonGiftCard d => pure (.amazonGiftCard ⟨m.country, d⟩)
  | .swish d => pure (.swish d)
  | .sepa d => pure (.sepa ⟨m.country, d⟩)
  | .sepaInstant d => pure (.sepaInstant ⟨m.country, d⟩)
  | .bizum d => pure (.bizum d)
  | .f2f d => pure (.f2f ⟨m.country, d⟩)
  | .pix d => pure (.pix d)
  | .promptPay d => pure (.promptPay d)
  | .strike d => pure (.strike d)
  | .upi d => pure (.upi d)
  | .wise d => pure (.wise ⟨m.country, d⟩)
  | .wiseUsd d => pure (.wiseUsd d)
  | .moneyGram d => pure (.moneyGram ⟨m.country, d⟩)
  | .moneyBeam d => pure (.moneyBeam ⟨m.country, d⟩)
  | .pin4 d => pure (.pin4 d)
  | .swift d => pure (.swift ⟨m.country, d⟩)

def Instrument.ofMessage (m : Message.Payload) :
    Except AccountError Instrument := do
  let arm ← Message.chosen "payload" m.arm
  match arm with
  | .zelle d => pure (.zelle d)
  | .usPostalMoneyOrder d => pure (.usPostalMoneyOrder d)
  | .payId d => pure (.payId d)
  | .interacETransfer d => pure (.interacETransfer d)
  | .halCash d => pure (.halCash d)
  | .fasterPayments d => pure (.fasterPayments d)
  | .sbp d => pure (.sbp d)
  | .cashByMail d => pure (.cashByMail d)
  | .revolut d => pure (.revolut d)
  | .uphold d => pure (.uphold d)
  | .userDefinedFiat d => pure (.userDefinedFiat d)
  | .countryBased c => (CountryInstrument.ofMessage c).map .countryBased

/-- The country that a message writes is the instrument's own. -/
def Payload.checkWrittenCountry (m : Message.Payload)
    (p : Payload Instrument) : Check :=
  match m.arm with
  | some (.countryBased c) =>
    Check.equals "country_code" c.country (p.country.getD "")
  | _ => Check.pass

/-- The payload of a message. -/
def Payload.ofMessage (m : Message.Payload) :
    Except AccountError (Payload Instrument) := do
  let instrument ← Instrument.ofMessage m
  let p ← Payload.create m.id m.salt instrument
  (p.checkWrittenCountry m).raise
  pure p

end FiatAccounts

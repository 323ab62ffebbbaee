/-
Accounts as messages and messages as accounts.

The choice in an account's message says nothing that the payload does not say
too, so the two must agree: both name a rail, and a message whose rails differ
is refused. What is refused first: an open choice, the outermost first, then an
absent payload, a payload that is none, rails that differ, and last a key of
unknown names.
-/
import FiatAccounts.Account.Basic
import FiatAccounts.Message.Account
import FiatAccounts.Payload.Message

namespace FiatAccounts

-- =========================================== from accounts to messages

def BankAccount.arm : BankAccount → Message.BankAccountArm
  | .achTransfer _ => .achTransfer
  | .nationalBank _ => .nationalBank
  | .cashDeposit _ => .cashDeposit
  | .sameBank _ => .sameBank
  | .domesticWireTransfer _ => .domesticWireTransfer

def CountryAccount.arm : CountryAccount → Message.CountryAccountArm
  | .bank b => .bank (some b.arm)
  | .amazonGiftCard _ => .amazonGiftCard
  | .swish _ => .swish
  | .sepa _ => .sepa
  | .sepaInstant _ => .sepaInstant
  | .bizum _ => .bizum
  | .f2f _ => .f2f
  | .pix _ => .pix
  | .promptPay _ => .promptPay
  | .strike _ => .strike
  | .upi _ => .upi
  | .wise _ => .wise
  | .wiseUsd _ => .wiseUsd
  | .moneyGram _ => .moneyGram
  | .moneyBeam _ => .moneyBeam
  | .pin4 _ => .pin4
  | .swift _ => .swift

def PaymentAccount.arm : PaymentAccount → Message.AccountArm
  | .zelle _ => .zelle
  | .usPostalMoneyOrder _ => .usPostalMoneyOrder
  | .payId _ => .payId
  | .interacETransfer _ => .interacETransfer
  | .halCash _ => .halCash
  | .fasterPayments _ => .fasterPayments
  | .sbp _ => .sbp
  | .cashByMail _ => .cashByMail
  | .revolut _ => .revolut
  | .uphold _ => .uphold
  | .userDefinedFiat _ => .userDefinedFiat
  | .countryBased c => .countryBased (some c.arm)

def SigningIdentity.toMessage (s : SigningIdentity) : Message.Signing where
  publicKey := s.publicKey
  privateKey := s.privateKey
  algorithm := s.algorithm.name
  origin := s.origin.name

/-- The message of an account. -/
def PaymentAccount.toMessage (a : PaymentAccount) : Message.Account where
  id := a.id
  creationDate := a.creationDate
  name := a.name
  payload := some a.payload.toMessage
  signing := a.signing.map SigningIdentity.toMessage
  arm := some a.arm

-- ==================================== the rail that a message declares

def Message.BankAccountArm.rail : BankAccountArm → Rail
  | .achTransfer => .achTransfer
  | .nationalBank => .nationalBank
  | .cashDeposit => .cashDeposit
  | .sameBank => .sameBank
  | .domesticWireTransfer => .domesticWireTransfer

def Message.CountryAccountArm.rail :
    CountryAccountArm → Except AccountError Rail
  | .bank arm => (chosen "bank_account" arm).map BankAccountArm.rail
  | .amazonGiftCard => .ok .amazonGiftCard
  | .swish => .ok .swish
  | .sepa => .ok .sepa
  | .sepaInstant => .ok .sepaInstant
  | .bizum => .ok .bizum
  | .f2f => .ok .f2f
  | .pix => .ok .pix
  | .promptPay => .ok .promptPay
  | .strike => .ok .strike
  | .upi => .ok .upi
  | .wise => .ok .wise
  | .wiseUsd => .ok .wiseUsd
  | .moneyGram => .ok .moneyGram
  | .moneyBeam => .ok .moneyBeam
  | .pin4 => .ok .pin4
  | .swift => .ok .swift

def Message.AccountArm.rail : AccountArm → Except AccountError Rail
  | .zelle => .ok .zelle
  | .usPostalMoneyOrder => .ok .usPostalMoneyOrder
  | .payId => .ok .payId
  | .interacETransfer => .ok .interacETransfer
  | .halCash => .ok .halCash
  | .fasterPayments => .ok .fasterPayments
  | .sbp => .ok .sbp
  | .cashByMail => .ok .cashByMail
  | .revolut => .ok .revolut
  | .uphold => .ok .uphold
  | .userDefinedFiat => .ok .custom
  | .countryBased arm => do
    let arm ← chosen "country_based_account" arm
    arm.rail

/-- The rail that the message's choices name. -/
def Message.Account.rail (m : Message.Account) : Except AccountError Rail := do
  let arm ← Message.chosen "account" m.arm
  arm.rail

-- =========================================== from messages to accounts

def SigningIdentity.ofMessage (m : Message.Signing) :
    Except AccountError SigningIdentity :=
  match KeyAlgorithm.ofName? m.algorithm with
  | none => .error (.decode (.unknownKeyAlgorithm m.algorithm))
  | some algorithm =>
    match AccountOrigin.ofName? m.origin with
    | none => .error (.decode (.unknownAccountOrigin m.origin))
    | some origin => .ok ⟨m.publicKey, m.privateKey, algorithm, origin⟩

/-- The payload inside the message. -/
def Message.Account.payload? (m : Message.Account) :
    Except AccountError (FiatAccounts.Payload Instrument) :=
  match m.payload with
  | some payload => FiatAccounts.Payload.ofMessage payload
  | none => .error (.missingRequiredField "Account" "account_payload")

/-- The key inside the message, if there is one. -/
def Message.Account.signing? (m : Message.Account) :
    Except AccountError (Option SigningIdentity) :=
  match m.signing with
  | some signing => (SigningIdentity.ofMessage signing).map some
  | none => .ok none

/-- The account of a message. -/
def PaymentAccount.ofMessage (m : Message.Account) :
    Except AccountError PaymentAccount := do
  let declared ← m.rail
  let payload ← m.payload?
  if payload.rail ≠ declared then
    .error (.unresolvableVariant "account"
      (declared.name ++ " account holds a " ++ payload.rail.name ++ " payload"))
  else
    let signing ← m.signing?
    pure (PaymentAccount.ofPayload m.id m.creationDate m.name payload signing)

end FiatAccounts

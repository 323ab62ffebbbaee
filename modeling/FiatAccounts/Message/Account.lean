/-
The message of an account: its record, the message of its payload, the key
where there is one, and a choice that names the account's kind. The
alternatives of that choice have no fields; kinds bound to a country, and bank
accounts among them, stand in choices of their own as in the payload.
-/
import FiatAccounts.Catalog.Rail
import FiatAccounts.Message.Payload

namespace FiatAccounts.Message

open Wire

-- ==================================================== kinds of account

inductive BankAccountArm where
  | achTransfer
  | nationalBank
  | cashDeposit
  | sameBank
  | domesticWireTransfer
  deriving DecidableEq, Repr

inductive CountryAccountArm where
  | bank (arm : Option BankAccountArm)
  | amazonGiftCard
  | swish
  | sepa
  | sepaInstant
  | bizum
  | f2f
  | pix
  | promptPay
  | strike
  | upi
  | wise
  | wiseUsd
  | moneyGram
  | moneyBeam
  | pin4
  | swift
  deriving DecidableEq, Repr

inductive AccountArm where
  | zelle
  | usPostalMoneyOrder
  | payId
  | interacETransfer
  | halCash
  | fasterPayments
  | sbp
  | cashByMail
  | revolut
  | uphold
  | userDefinedFiat
  | countryBased (arm : Option CountryAccountArm)
  deriving DecidableEq, Repr

def BankAccountArm.arms : List (Layout.Arm BankAccountArm) :=
  [.of 20 .nothing (fun _ => .achTransfer)
     (fun | .achTransfer => some () | _ => none),
   .of 21 .nothing (fun _ => .nationalBank)
     (fun | .nationalBank => some () | _ => none),
   .of 22 .nothing (fun _ => .cashDeposit)
     (fun | .cashDeposit => some () | _ => none),
   .of 23 .nothing (fun _ => .sameBank)
     (fun | .sameBank => some () | _ => none),
   .of 24 .nothing (fun _ => .domesticWireTransfer)
     (fun | .domesticWireTransfer => some () | _ => none)]

def CountryAccountArm.arms : List (Layout.Arm CountryAccountArm) :=
  [.of 10 (.choice BankAccountArm.arms) .bank
     (fun | .bank arm => some arm | _ => none),
   .of 11 .nothing (fun _ => .amazonGiftCard)
     (fun | .amazonGiftCard => some () | _ => none),
   .of 12 .nothing (fun _ => .swish) (fun | .swish => some () | _ => none),
   .of 13 .nothing (fun _ => .sepa) (fun | .sepa => some () | _ => none),
   .of 14 .nothing (fun _ => .sepaInstant)
     (fun | .sepaInstant => some () | _ => none),
   .of 15 .nothing (fun _ => .bizum) (fun | .bizum => some () | _ => none),
   .of 16 .nothing (fun _ => .f2f) (fun | .f2f => some () | _ => none),
   .of 17 .nothing (fun _ => .pix) (fun | .pix => some () | _ => none),
   .of 18 .nothing (fun _ => .promptPay)
     (fun | .promptPay => some () | _ => none),
   .of 19 .nothing (fun _ => .strike) (fun | .strike => some () | _ => none),
   .of 20 .nothing (fun _ => .upi) (fun | .upi => some () | _ => none),
   .of 21 .nothing (fun _ => .wise) (fun | .wise => some () | _ => none),
   .of 22 .nothing (fun _ => .wiseUsd) (fun | .wiseUsd => some () | _ => none),
   .of 23 .nothing (fun _ => .moneyGram)
     (fun | .moneyGram => some () | _ => none),
   .of 24 .nothing (fun _ => .moneyBeam)
     (fun | .moneyBeam => some () | _ => none),
   .of 25 .nothing (fun _ => .pin4) (fun | .pin4 => some () | _ => none),
   .of 26 .nothing (fun _ => .swift) (fun | .swift => some () | _ => none)]

def AccountArm.arms : List (Layout.Arm AccountArm) :=
  [.of 10 .nothing (fun _ => .zelle) (fun | .zelle => some () | _ => none),
   .of 11 .nothing (fun _ => .usPostalMoneyOrder)
     (fun | .usPostalMoneyOrder => some () | _ => none),
   .of 12 .nothing (fun _ => .payId) (fun | .payId => some () | _ => none),
   .of 13 .nothing (fun _ => .interacETransfer)
     (fun | .interacETransfer => some () | _ => none),
   .of 14 .nothing (fun _ => .halCash) (fun | .halCash => some () | _ => none),
   .of 15 .nothing (fun _ => .fasterPayments)
     (fun | .fasterPayments => some () | _ => none),
   .of 16 .nothing (fun _ => .sbp) (fun | .sbp => some () | _ => none),
   .of 17 .nothing (fun _ => .cashByMail)
     (fun | .cashByMail => some () | _ => none),
   .of 18 .nothing (fun _ => .revolut) (fun | .revolut => some () | _ => none),
   .of 19 .nothing (fun _ => .uphold) (fun | .uphold => some () | _ => none),
   .of 20 .nothing (fun _ => .userDefinedFiat)
     (fun | .userDefinedFiat => some () | _ => none),
   .of 30 (.choice CountryAccountArm.arms) .countryBased
     (fun | .countryBased arm => some arm | _ => none)]

-- ============================================================ accounts

/-- A key as it is written: its names are texts, and may be unknown. -/
structure Signing where
  publicKey : List UInt8
  privateKey : List UInt8
  algorithm : String
  origin : String
  deriving DecidableEq, Repr

def Signing.layout : Layout Signing :=
  (Layout.both (.blob 1) (.both (.blob 2) (.both (.text 3) (.text 4)))).reshape
    (fun (publicKey, privateKey, algorithm, origin) =>
      ⟨publicKey, privateKey, algorithm, origin⟩)
    (fun m => (m.publicKey, m.privateKey, m.algorithm, m.origin))

structure Account where
  id : String
  creationDate : Millis
  name : String
  payload : Option Payload
  signing : Option Signing
  arm : Option AccountArm
  deriving DecidableEq, Repr

def Account.layout : Layout Account :=
  (Layout.both (.text 1) <| .both (.millis 2) <| .both (.text 3) <|
    .both (.message 4 Payload.layout) <| .both (.message 5 Signing.layout) <|
    .choice AccountArm.arms).reshape
    (fun (id, creationDate, name, payload, signing, arm) =>
      ⟨id, creationDate, name, payload, signing, arm⟩)
    (fun m => (m.id, m.creationDate, m.name, m.payload, m.signing, m.arm))

/-- The message without the secret half of its key. -/
def Account.withoutPrivateKey (m : Account) : Account :=
  { m with signing := m.signing.map fun s => { s with privateKey := [] } }

end FiatAccounts.Message

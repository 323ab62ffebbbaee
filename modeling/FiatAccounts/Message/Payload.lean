/-
The message of a payload: the id, the salt and a choice between the kinds of
instrument. Kinds that are bound to a country share one alternative of the
choice, which holds the country and a choice of its own; bank accounts share
one alternative of that, again with a choice of its own.

A message is plain data. Every choice may be open, a code may be unknown and a
text may be of any length: whether a message is a payload is decided elsewhere.
-/
import FiatAccounts.Message.Instrument

namespace FiatAccounts.Message

open Wire

-- ======================================================= bank accounts

/-- The ways to transfer to a bank account, each with the fields of its own. -/
inductive BankArm where
  | achTransfer (holderAddress : Option String)
  | nationalBank
  | cashDeposit (requirements : Option String)
  | sameBank
  | domesticWireTransfer (holderAddress : Option String)
  deriving DecidableEq, Repr

structure Bank where
  holderName : Option String
  holderId : Option String
  bankName : Option String
  bankId : Option String
  branchId : Option String
  accountNr : String
  accountType : Option String
  nationalAccountId : Option String
  currency : String
  arm : Option BankArm
  deriving DecidableEq, Repr

def BankArm.arms : List (Layout.Arm BankArm) :=
  [.of 20 (.optionalText 1) .achTransfer
     (fun | .achTransfer a => some a | _ => none),
   .of 21 .nothing (fun _ => .nationalBank)
     (fun | .nationalBank => some () | _ => none),
   .of 22 (.optionalText 1) .cashDeposit
     (fun | .cashDeposit r => some r | _ => none),
   .of 23 .nothing (fun _ => .sameBank)
     (fun | .sameBank => some () | _ => none),
   .of 24 (.optionalText 1) .domesticWireTransfer
     (fun | .domesticWireTransfer a => some a | _ => none)]

def Bank.layout : Layout Bank :=
  (Layout.both (.optionalText 1) <| .both (.optionalText 2) <|
    .both (.optionalText 3) <| .both (.optionalText 4) <|
    .both (.optionalText 5) <| .both (.text 6) <| .both (.optionalText 7) <|
    .both (.optionalText 8) <| .both (.text 9) <| .choice BankArm.arms).reshape
    (fun
      (holderName, holderId, bankName, bankId, branchId, accountNr, accountType,
       nationalAccountId, currency, arm) =>
      ⟨holderName, holderId, bankName, bankId, branchId, accountNr,
       accountType, nationalAccountId, currency, arm⟩)
    (fun m =>
      (m.holderName, m.holderId, m.bankName, m.bankId, m.branchId, m.accountNr,
       m.accountType, m.nationalAccountId, m.currency, m.arm))

-- ============================================ instruments of a country

inductive CountryArm where
  | bank (m : Bank)
  | amazonGiftCard (d : AmazonGiftCard)
  | swish (d : Swish)
  | sepa (d : Sepa)
  | sepaInstant (d : Sepa)
  | bizum (d : Bizum)
  | f2f (d : F2f)
  | pix (d : Pix)
  | promptPay (d : PromptPay)
  | strike (d : Strike)
  | upi (d : Upi)
  | wise (d : Wise)
  | wiseUsd (d : WiseUsd)
  | moneyGram (d : MoneyGram)
  | moneyBeam (d : MoneyBeam)
  | pin4 (d : Pin4)
  | swift (d : Swift)
  deriving DecidableEq, Repr

structure CountryBased where
  country : String
  arm : Option CountryArm
  deriving DecidableEq, Repr

def CountryArm.arms : List (Layout.Arm CountryArm) :=
  [.of 10 Bank.layout .bank (fun | .bank m => some m | _ => none),
   .of 11 AmazonGiftCard.layout .amazonGiftCard
     (fun | .amazonGiftCard d => some d | _ => none),
   .of 12 Swish.layout .swish (fun | .swish d => some d | _ => none),
   .of 13 Sepa.layout .sepa (fun | .sepa d => some d | _ => none),
   .of 14 Sepa.layout .sepaInstant
     (fun | .sepaInstant d => some d | _ => none),
   .of 15 Bizum.layout .bizum (fun | .bizum d => some d | _ => none),
   .of 16 F2f.layout .f2f (fun | .f2f d => some d | _ => none),
   .of 17 Pix.layout .pix (fun | .pix d => some d | _ => none),
   .of 18 PromptPay.layout .promptPay
     (fun | .promptPay d => some d | _ => none),
   .of 19 Strike.layout .strike (fun | .strike d => some d | _ => none),
   .of 20 Upi.layout .upi (fun | .upi d => some d | _ => none),
   .of 21 Wise.layout .wise (fun | .wise d => some d | _ => none),
   .of 22 WiseUsd.layout .wiseUsd (fun | .wiseUsd d => some d | _ => none),
   .of 23 MoneyGram.layout .moneyGram
     (fun | .moneyGram d => some d | _ => none),
   .of 24 MoneyBeam.layout .moneyBeam
     (fun | .moneyBeam d => some d | _ => none),
   .of 25 Pin4.layout .pin4 (fun | .pin4 d => some d | _ => none),
   .of 26 Swift.layout .swift (fun | .swift d => some d | _ => none)]

def CountryBased.layout : Layout CountryBased :=
  (Layout.both (.text 1) (.choice CountryArm.arms)).reshape
    (fun (country, arm) => ⟨country, arm⟩)
    (fun m => (m.country, m.arm))

-- ============================================================ payloads

inductive PayloadArm where
  | zelle (d : Zelle)
  | usPostalMoneyOrder (d : UsPostalMoneyOrder)
  | payId (d : PayId)
  | interacETransfer (d : InteracETransfer)
  | halCash (d : HalCash)
  | fasterPayments (d : FasterPayments)
  | sbp (d : Sbp)
  | cashByMail (d : CashByMail)
  | revolut (d : Revolut)
  | uphold (d : Uphold)
  | userDefinedFiat (d : UserDefinedFiat)
  | countryBased (m : CountryBased)
  deriving DecidableEq, Repr

structure Payload where
  id : String
  salt : List UInt8
  arm : Option PayloadArm
  deriving DecidableEq, Repr

def PayloadArm.arms : List (Layout.Arm PayloadArm) :=
  [.of 10 Zelle.layout .zelle (fun | .zelle d => some d | _ => none),
   .of 11 UsPostalMoneyOrder.layout .usPostalMoneyOrder
     (fun | .usPostalMoneyOrder d => some d | _ => none),
   .of 12 PayId.layout .payId (fun | .payId d => some d | _ => none),
   .of 13 InteracETransfer.layout .interacETransfer
     (fun | .interacETransfer d => some d | _ => none),
   .of 14 HalCash.layout .halCash (fun | .halCash d => some d | _ => none),
   .of 15 FasterPayments.layout .fasterPayments
     (fun | .fasterPayments d => some d | _ => none),
   .of 16 Sbp.layout .sbp (fun | .sbp d => some d | _ => none),
   .of 17 CashByMail.layout .cashByMail
     (fun | .cashByMail d => some d | _ => none),
   .of 18 Revolut.layout .revolut (fun | .revolut d => some d | _ => none),
   .of 19 Uphold.layout .uphold (fun | .uphold d => some d | _ => none),
   .of 20 UserDefinedFiat.layout .userDefinedFiat
     (fun | .userDefinedFiat d => some d | _ => none),
   .of 30 CountryBased.layout .countryBased
     (fun | .countryBased m => some m | _ => none)]

def Payload.layout : Layout Payload :=
  (Layout.both (.text 1) (.both (.blob 2) (.choice PayloadArm.arms))).reshape
    (fun (id, salt, arm) => ⟨id, salt, arm⟩)
    (fun m => (m.id, m.salt, m.arm))

end FiatAccounts.Message

/-
Accounts: a payload with the record that its owner keeps around it.

An `Account` is generic in the kind of instrument that its payload holds. The
hierarchy of accounts repeats that of instruments level by level, so that the
kind of an account can be read off its constructors and an account of one kind
never holds an instrument of another. `record` forgets the level and `ofRecord`
finds it again: the hierarchy holds no more than a record around a payload.
-/
import FiatAccounts.Payload.Basic
import FiatAccounts.Time.Millis

namespace FiatAccounts

-- ================================================================ keys

/-- The signature scheme of an account's key. -/
inductive KeyAlgorithm where
  | ec
  | dsa
  | ed25519
  deriving DecidableEq, Repr

namespace KeyAlgorithm

def all : List KeyAlgorithm := [.ec, .dsa, .ed25519]

def name : KeyAlgorithm → String
  | .ec => "EC"
  | .dsa => "DSA"
  | .ed25519 => "ED25519"

def ofName? (text : String) : Option KeyAlgorithm :=
  all.find? fun algorithm => algorithm.name == text

end KeyAlgorithm

/-- Where an account comes from. -/
inductive AccountOrigin where
  /-- Taken over from an older system, together with its key. -/
  | legacyImport
  | created
  deriving DecidableEq, Repr

namespace AccountOrigin

def all : List AccountOrigin := [.legacyImport, .created]

def name : AccountOrigin → String
  | .legacyImport => "LEGACY_IMPORT"
  | .created => "CREATED"

def ofName? (text : String) : Option AccountOrigin :=
  all.find? fun origin => origin.name == text

end AccountOrigin

/-- The key with which an account signs. -/
structure SigningIdentity where
  publicKey : List UInt8
  privateKey : List UInt8
  algorithm : KeyAlgorithm
  origin : AccountOrigin
  deriving DecidableEq, Repr

namespace SigningIdentity

/-- The same identity without its secret. -/
def withoutPrivateKey (s : SigningIdentity) : SigningIdentity :=
  { s with privateKey := [] }

/-- The key on one line; the secret half never shows. -/
def describe (s : SigningIdentity) : String :=
  "KeyPair \x7b public_key: "
    ++ Text.Quoted.quote (Text.Hex.encode s.publicKey)
    ++ ", private_key: \"<redacted>\" \x7d"

end SigningIdentity

-- ============================================================= records

/-- An account whose payload holds an instrument of type `ι`. -/
structure Account (ι : Type) where
  id : String
  creationDate : Millis
  name : String
  payload : Payload ι
  signing : Option SigningIdentity
  deriving DecidableEq, Repr

namespace Account

/-- An account that cannot sign. -/
def new {ι : Type} (id : String) (creationDate : Millis) (name : String)
    (payload : Payload ι) :
    Account ι where
  id := id
  creationDate := creationDate
  name := name
  payload := payload
  signing := none

def withSigning {ι : Type} (a : Account ι) (signing : SigningIdentity) :
    Account ι :=
  { a with signing := some signing }

/-- The same account with its instrument seen as one of another type. -/
def map {ι κ : Type} (f : ι → κ) (a : Account ι) : Account κ where
  id := a.id
  creationDate := a.creationDate
  name := a.name
  payload := a.payload.map f
  signing := a.signing

/-- The same account around another instrument. -/
def withInstrument {ι κ : Type} (a : Account ι) (instrument : κ) : Account κ :=
  a.map fun _ => instrument

/-- The id that 16 bytes spell: 32 hexadecimal digits in five groups. -/
def idOfBytes (bytes : List UInt8) : String :=
  let part (first count : Nat) :=
    Text.Hex.encode ((bytes.drop first).take count)
  String.intercalate "-" [part 0 4, part 4 2, part 6 2, part 8 2, part 10 6]

/-- A new account with an id made of 16 bytes, named after its payload. -/
def fresh (bytes : List UInt8) (now : Millis) (payload : Payload Instrument) :
    Account Instrument :=
  new (idOfBytes bytes) now payload.defaultName payload

end Account

-- ==================================================== the three levels

/-- Accounts that hold bank accounts. -/
inductive BankAccount where
  | achTransfer (a : Account UsTransfer)
  | nationalBank (a : Account BankDetails)
  | cashDeposit (a : Account CashDeposit)
  | sameBank (a : Account BankDetails)
  | domesticWireTransfer (a : Account UsTransfer)
  deriving DecidableEq, Repr

/-- Accounts whose instrument is bound to a country. -/
inductive CountryAccount where
  | bank (b : BankAccount)
  | amazonGiftCard (a : Account (InCountry AmazonGiftCard))
  | swish (a : Account Swish)
  | sepa (a : Account (InCountry Sepa))
  | sepaInstant (a : Account (InCountry Sepa))
  | bizum (a : Account Bizum)
  | f2f (a : Account (InCountry F2f))
  | pix (a : Account Pix)
  | promptPay (a : Account PromptPay)
  | strike (a : Account Strike)
  | upi (a : Account Upi)
  | wise (a : Account (InCountry Wise))
  | wiseUsd (a : Account WiseUsd)
  | moneyGram (a : Account (InCountry MoneyGram))
  | moneyBeam (a : Account (InCountry MoneyBeam))
  | pin4 (a : Account Pin4)
  | swift (a : Account (InCountry Swift))
  deriving DecidableEq, Repr

/-- Every account. -/
inductive PaymentAccount where
  | zelle (a : Account Zelle)
  | usPostalMoneyOrder (a : Account UsPostalMoneyOrder)
  | payId (a : Account PayId)
  | interacETransfer (a : Account InteracETransfer)
  | halCash (a : Account HalCash)
  | fasterPayments (a : Account FasterPayments)
  | sbp (a : Account Sbp)
  | cashByMail (a : Account CashByMail)
  | revolut (a : Account Revolut)
  | uphold (a : Account Uphold)
  | userDefinedFiat (a : Account UserDefinedFiat)
  | countryBased (c : CountryAccount)
  deriving DecidableEq, Repr

-- ================================================== levels and records

namespace BankAccount

def record : BankAccount → Account BankInstrument
  | .achTransfer a => a.map .achTransfer
  | .nationalBank a => a.map .nationalBank
  | .cashDeposit a => a.map .cashDeposit
  | .sameBank a => a.map .sameBank
  | .domesticWireTransfer a => a.map .domesticWireTransfer

def ofRecord (a : Account BankInstrument) : BankAccount :=
  match a.payload.instrument with
  | .achTransfer d => .achTransfer (a.withInstrument d)
  | .nationalBank d => .nationalBank (a.withInstrument d)
  | .cashDeposit d => .cashDeposit (a.withInstrument d)
  | .sameBank d => .sameBank (a.withInstrument d)
  | .domesticWireTransfer d => .domesticWireTransfer (a.withInstrument d)

/-- The names of the constructors, from the outside in. -/
def path : BankAccount → List String
  | .achTransfer _ => ["AchTransfer"]
  | .nationalBank _ => ["NationalBank"]
  | .cashDeposit _ => ["CashDeposit"]
  | .sameBank _ => ["SameBank"]
  | .domesticWireTransfer _ => ["DomesticWireTransfer"]

end BankAccount

namespace CountryAccount

def record : CountryAccount → Account CountryInstrument
  | .bank b => b.record.map .bank
  | .amazonGiftCard a => a.map .amazonGiftCard
  | .swish a => a.map .swish
  | .sepa a => a.map .sepa
  | .sepaInstant a => a.map .sepaInstant
  | .bizum a => a.map .bizum
  | .f2f a => a.map .f2f
  | .pix a => a.map .pix
  | .promptPay a => a.map .promptPay
  | .strike a => a.map .strike
  | .upi a => a.map .upi
  | .wise a => a.map .wise
  | .wiseUsd a => a.map .wiseUsd
  | .moneyGram a => a.map .moneyGram
  | .moneyBeam a => a.map .moneyBeam
  | .pin4 a => a.map .pin4
  | .swift a => a.map .swift

def ofRecord (a : Account CountryInstrument) : CountryAccount :=
  match a.payload.instrument with
  | .bank b => .bank (BankAccount.ofRecord (a.withInstrument b))
  | .amazonGiftCard d => .amazonGiftCard (a.withInstrument d)
  | .swish d => .swish (a.withInstrument d)
  | .sepa d => .sepa (a.withInstrument d)
  | .sepaInstant d => .sepaInstant (a.withInstrument d)
  | .bizum d => .bizum (a.withInstrument d)
  | .f2f d => .f2f (a.withInstrument d)
  | .pix d => .pix (a.withInstrument d)
  | .promptPay d => .promptPay (a.withInstrument d)
  | .strike d => .strike (a.withInstrument d)
  | .upi d => .upi (a.withInstrument d)
  | .wise d => .wise (a.withInstrument d)
  | .wiseUsd d => .wiseUsd (a.withInstrument d)
  | .moneyGram d => .moneyGram (a.withInstrument d)
  | .moneyBeam d => .moneyBeam (a.withInstrument d)
  | .pin4 d => .pin4 (a.withInstrument d)
  | .swift d => .swift (a.withInstrument d)

def path : CountryAccount → List String
  | .bank b => "Bank" :: b.path
  | .amazonGiftCard _ => ["AmazonGiftCard"]
  | .swish _ => ["Swish"]
  | .sepa _ => ["Sepa"]
  | .sepaInstant _ => ["SepaInstant"]
  | .bizum _ => ["Bizum"]
  | .f2f _ => ["F2f"]
  | .pix _ => ["Pix"]
  | .promptPay _ => ["PromptPay"]
  | .strike _ => ["Strike"]
  | .upi _ => ["Upi"]
  | .wise _ => ["Wise"]
  | .wiseUsd _ => ["WiseUsd"]
  | .moneyGram _ => ["MoneyGram"]
  | .moneyBeam _ => ["MoneyBeam"]
  | .pin4 _ => ["Pin4"]
  | .swift _ => ["Swift"]

end CountryAccount

namespace PaymentAccount

/-- The account as one record, whatever its kind. -/
def record : PaymentAccount → Account Instrument
  | .zelle a => a.map .zelle
  | .usPostalMoneyOrder a => a.map .usPostalMoneyOrder
  | .payId a => a.map .payId
  | .interacETransfer a => a.map .interacETransfer
  | .halCash a => a.map .halCash
  | .fasterPayments a => a.map .fasterPayments
  | .sbp a => a.map .sbp
  | .cashByMail a => a.map .cashByMail
  | .revolut a => a.map .revolut
  | .uphold a => a.map .uphold
  | .userDefinedFiat a => a.map .userDefinedFiat
  | .countryBased c => c.record.map .countryBased

/-- The account of a record, under the constructors of its instrument's
kind. -/
def ofRecord (a : Account Instrument) : PaymentAccount :=
  match a.payload.instrument with
  | .zelle d => .zelle (a.withInstrument d)
  | .usPostalMoneyOrder d => .usPostalMoneyOrder (a.withInstrument d)
  | .payId d => .payId (a.withInstrument d)
  | .interacETransfer d => .interacETransfer (a.withInstrument d)
  | .halCash d => .halCash (a.withInstrument d)
  | .fasterPayments d => .fasterPayments (a.withInstrument d)
  | .sbp d => .sbp (a.withInstrument d)
  | .cashByMail d => .cashByMail (a.withInstrument d)
  | .revolut d => .revolut (a.withInstrument d)
  | .uphold d => .uphold (a.withInstrument d)
  | .userDefinedFiat d => .userDefinedFiat (a.withInstrument d)
  | .countryBased c =>
    .countryBased (CountryAccount.ofRecord (a.withInstrument c))

def path : PaymentAccount → List String
  | .zelle _ => ["Zelle"]
  | .usPostalMoneyOrder _ => ["UsPostalMoneyOrder"]
  | .payId _ => ["PayId"]
  | .interacETransfer _ => ["InteracETransfer"]
  | .halCash _ => ["HalCash"]
  | .fasterPayments _ => ["FasterPayments"]
  | .sbp _ => ["Sbp"]
  | .cashByMail _ => ["CashByMail"]
  | .revolut _ => ["Revolut"]
  | .uphold _ => ["Uphold"]
  | .userDefinedFiat _ => ["UserDefinedFiat"]
  | .countryBased c => "CountryBased" :: c.path

/-- An account around a payload of any kind. -/
def ofPayload (id : String) (creationDate : Millis) (name : String)
    (payload : Payload Instrument)
    (signing : Option SigningIdentity) : PaymentAccount :=
  ofRecord { id, creationDate, name, payload, signing }

def id (a : PaymentAccount) : String := a.record.id

def creationDate (a : PaymentAccount) : Millis := a.record.creationDate

def name (a : PaymentAccount) : String := a.record.name

def payload (a : PaymentAccount) : Payload Instrument := a.record.payload

def signing (a : PaymentAccount) : Option SigningIdentity := a.record.signing

def rail (a : PaymentAccount) : Rail := a.payload.rail

end PaymentAccount

end FiatAccounts

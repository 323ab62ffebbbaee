/-
Payloads: a payment instrument under an id, with a salt that keeps its hashes
from being guessed.

`verify` holds every rule, from the outside in: the id and the salt, the
country, the currencies, the lengths of a bank account's fields, and last the
rules of the instrument's own kind. `create` is the way to make a payload and
lets only verified ones through; nothing else in this library makes one.
-/
import FiatAccounts.Catalog.Coverage
import FiatAccounts.Check.Codes
import FiatAccounts.Instrument.Basic
import FiatAccounts.Text.Hex
import FiatAccounts.Text.Quoted

namespace FiatAccounts

-- ========================================================= id and salt

/-- What every payload carries beside its instrument. -/
structure PayloadCore where
  id : String
  salt : List UInt8
  deriving DecidableEq, Repr

namespace PayloadCore

/-- The length of new salts, and the longest of any. -/
def saltSize : Nat := 32

def check (core : PayloadCore) : Check := do
  Check.id "id" core.id
  if core.salt = [] then Check.fail "salt" .empty
  else if saltSize < core.salt.length then
    Check.fail "salt" (.tooLong saltSize core.salt.length)
  else Check.pass

/-- The id and the salt on one line. -/
def describe (core : PayloadCore) : String :=
  "PayloadCore \x7b id: " ++ Text.Quoted.quote core.id ++ ", salt: "
    ++ Text.Quoted.quote (Text.Hex.encode core.salt) ++ " \x7d"

end PayloadCore

/-- An instrument, or one kind of instrument, under an id and a salt. -/
structure Payload (ι : Type) extends PayloadCore where
  instrument : ι
  deriving DecidableEq, Repr

namespace Payload

/-- The same payload with its instrument seen as one of a larger type. -/
def map {ι κ : Type} (f : ι → κ) (p : Payload ι) : Payload κ where
  id := p.id
  salt := p.salt
  instrument := f p.instrument

-- ======================================================== verification

/-- The declared country is in the catalog and on the rail. -/
def checkCountry (rail : Rail) (code : String) : Check := do
  Check.countryCode "country_code" code
  if rail.supportsCountry code then Check.pass
  else Check.fail "country_code" (.notAllowed code)

/-- One chosen currency is in the catalog and on the rail. -/
def checkCurrencyCode (rail : Rail) (field code : String) : Check := do
  Check.currencyCode field code
  if rail.supportsCurrency code then Check.pass
  else Check.fail field (.notAllowed code)

/-- Every chosen currency is, and there is at least one. -/
def checkCurrency (rail : Rail) (choice : CurrencyChoice) : Check :=
  if choice.codes = [] then Check.fail choice.field .empty
  else choice.codes.forM (checkCurrencyCode rail choice.field)

/-- The rules that do not depend on the kind of instrument. -/
def checkProfile (profile : Profile) : Check := do
  match profile.country with
  | some code => checkCountry profile.rail code
  | none => Check.pass
  match profile.currency with
  | some choice => checkCurrency profile.rail choice
  | none => Check.pass
  match profile.bank with
  | some details => details.checkBounds
  | none => Check.pass

/-- Every rule that a payload obeys. -/
def verify (p : Payload Instrument) : Except AccountError Unit := do
  p.toPayloadCore.check.raise
  (checkProfile p.instrument.profile).raise
  p.instrument.verifyFields

/-- The payload of these parts, if it obeys every rule. A routing number is
looked at first of all. -/
def create (id : String) (salt : List UInt8) (instrument : Instrument) :
    Except AccountError (Payload Instrument) := do
  instrument.checkFirst.raise
  let p : Payload Instrument := { id, salt, instrument }
  p.verify
  pure p

/-- A payload for transfers through the clearing house of the United States. -/
def createAchTransfer (id : String) (salt : List UInt8) (holderName : String)
    (holderAddress : Option String) (bankName routingNr accountNr : String)
    (accountType : BankAccountType) :
    Except AccountError (Payload Instrument) :=
  let d := UsTransfer.ofHolder holderName holderAddress bankName routingNr
    accountNr (some accountType)
  create id salt (.countryBased (.bank (.achTransfer d)))

/-- A payload for wire transfers inside the United States. -/
def createWireTransfer (id : String) (salt : List UInt8) (holderName : String)
    (holderAddress : Option String) (bankName routingNr accountNr : String) :
    Except AccountError (Payload Instrument) :=
  let d := UsTransfer.ofHolder holderName holderAddress bankName routingNr
    accountNr none
  create id salt (.countryBased (.bank (.domesticWireTransfer d)))

-- ================================================ what a payload shows

def rail (p : Payload Instrument) : Rail := p.instrument.rail

def country (p : Payload Instrument) : Option String :=
  p.instrument.profile.country

def currency (p : Payload Instrument) : Option CurrencyChoice :=
  p.instrument.profile.currency

/-- One line for each label and value. -/
def display (p : Payload Instrument) : String :=
  String.intercalate "\n"
    (p.instrument.profile.summary.map fun (label, value) =>
      label ++ ": " ++ value)

/-- The name of an account that was given none: the rail and the first four
characters of the value that tells its accounts apart. -/
def defaultName (p : Payload Instrument) : String :=
  p.rail.shortName ++ "-"
    ++ String.ofList (p.instrument.profile.hint.toList.take 4)

end Payload

end FiatAccounts

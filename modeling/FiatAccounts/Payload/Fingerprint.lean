/-
Fingerprints: the bytes by which a payment instrument is known again, whatever
id and salt it comes under. Hashes of them are already published, so neither
the table of rules nor the names of the rails in it ever change.

A fingerprint is the rail's method id, the country where the rule says so, and
then the parts of the rule: values of the instrument by their names, and fixed
texts. An absent value adds nothing.
-/
import FiatAccounts.Payload.Basic
import FiatAccounts.Text.Utf8

namespace FiatAccounts

namespace Fingerprint

-- =============================================================== rules

/-- What a fingerprint opens with. -/
inductive Base where
  | methodAndCountry
  | method
  deriving DecidableEq, Repr

inductive Part where
  /-- The value of this name, if the instrument has it. -/
  | field (name : String)
  | literal (text : String)
  deriving DecidableEq, Repr

structure Rule where
  rail : Rail
  family : Family
  base : Base
  parts : List Part
  deriving DecidableEq, Repr

/-- The parts of every bank account, in the order in which older accounts were
hashed. -/
def bankParts : List Part :=
  [.field "bank_name", .field "bank_id", .field "branch_id",
   .field "account_nr", .field "bank_account_type", .field "holder_id",
   .field "national_account_id"]

/-- One rule for each rail that has instruments. -/
def rules : List Rule :=
  [⟨.zelle, .flat, .method, [.field "email_or_mobile_nr"]⟩,
   ⟨.usPostalMoneyOrder, .flat, .method,
    [.field "holder_name", .field "postal_address"]⟩,
   ⟨.payId, .flat, .method, [.field "pay_id", .field "holder_name"]⟩,
   ⟨.interacETransfer, .flat, .method,
    [.field "email", .field "question", .field "answer"]⟩,
   ⟨.halCash, .flat, .method, [.field "mobile_nr"]⟩,
   ⟨.fasterPayments, .flat, .method,
    [.field "sort_code", .field "account_nr"]⟩,
   ⟨.sbp, .flat, .method, [.field "mobile_number", .field "bank_name"]⟩,
   ⟨.cashByMail, .flat, .method, [.field "contact", .field "postal_address"]⟩,
   ⟨.revolut, .flat, .method, [.field "user_name"]⟩,
   ⟨.uphold, .flat, .method, [.field "account_id"]⟩,
   ⟨.custom, .flat, .method, [.field "account_data"]⟩,
   ⟨.amazonGiftCard, .countryBased, .method,
    [.literal "AmazonGiftCard", .field "email_or_mobile_nr"]⟩,
   ⟨.swish, .countryBased, .method, [.field "mobile_nr"]⟩,
   ⟨.sepa, .countryBased, .methodAndCountry, [.field "iban", .field "bic"]⟩,
   ⟨.sepaInstant, .countryBased, .methodAndCountry,
    [.field "iban", .field "bic"]⟩,
   ⟨.bizum, .countryBased, .methodAndCountry, [.field "mobile_nr"]⟩,
   ⟨.f2f, .countryBased, .methodAndCountry, [.field "contact", .field "city"]⟩,
   ⟨.pix, .countryBased, .methodAndCountry,
    [.field "pix_key", .field "holder_name"]⟩,
   ⟨.promptPay, .countryBased, .method, [.field "prompt_pay_id"]⟩,
   ⟨.strike, .countryBased, .methodAndCountry, [.field "holder_name"]⟩,
   ⟨.upi, .countryBased, .methodAndCountry,
    [.field "virtual_payment_address"]⟩,
   ⟨.wise, .countryBased, .method, [.field "email", .field "holder_name"]⟩,
   ⟨.wiseUsd, .countryBased, .methodAndCountry, [.field "holder_name"]⟩,
   ⟨.moneyGram, .countryBased, .methodAndCountry,
    [.field "state", .field "holder_name", .field "email"]⟩,
   ⟨.moneyBeam, .countryBased, .method,
    [.field "account_id", .field "holder_name"]⟩,
   ⟨.pin4, .countryBased, .methodAndCountry, [.field "mobile_nr"]⟩,
   ⟨.swift, .countryBased, .method, [.field "beneficiary_account_nr"]⟩,
   ⟨.achTransfer, .bank, .methodAndCountry, bankParts⟩,
   ⟨.nationalBank, .bank, .methodAndCountry, bankParts⟩,
   ⟨.cashDeposit, .bank, .methodAndCountry, bankParts⟩,
   ⟨.sameBank, .bank, .methodAndCountry, bankParts⟩,
   ⟨.domesticWireTransfer, .bank, .methodAndCountry, bankParts⟩]

/-- The rule of a rail. -/
def rule? (rail : Rail) : Option Rule :=
  rules.find? fun rule => rule.rail == rail

-- ===================================================== texts and bytes

/-- The text that one part adds. -/
def Part.text (profile : Profile) : Part → String
  | .field name => (profile.identity.lookup name).getD ""
  | .literal text => text

/-- The text after the method id. -/
def Rule.text (rule : Rule) (profile : Profile) : String :=
  let opening :=
    if rule.base = .methodAndCountry then profile.country.getD "" else ""
  opening ++ String.join (rule.parts.map fun part => part.text profile)

/-- The fingerprint as a text. A rail without a rule is known by its method id
alone. -/
def text (profile : Profile) : String :=
  profile.rail.methodId ++
    match rule? profile.rail with
    | some rule => rule.text profile
    | none => ""

end Fingerprint

/-- The bytes by which the payload's instrument is known again. -/
def Payload.fingerprint (p : Payload Instrument) : List UInt8 :=
  Text.Utf8.encode (Fingerprint.text p.instrument.profile)

end FiatAccounts

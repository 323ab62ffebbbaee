/-
Bank accounts as payment instruments. All of them carry the same `BankDetails`.
For transfers inside a country the catalog says which fields must be there; the
two transfers of the United States fix country, currency and required fields
themselves, and carry the routing number as the bank's id.
-/
import FiatAccounts.Instrument.Profile

namespace FiatAccounts

/-- The outcome of a check as the outcome of a larger operation. -/
def Check.raise (check : Check) : Except AccountError Unit :=
  check.mapError .fieldValidation

-- ========================================================= the account

namespace BankDetails

/-- The lengths of the fields that are present. -/
def checkBounds (d : BankDetails) : Check := do
  Check.optionalText "holder_name" d.holderName 2 100
  Check.optionalText "holder_id" d.holderId 1 50
  Check.optionalText "bank_name" d.bankName 1 100
  Check.optionalText "bank_id" d.bankId 1 50
  Check.optionalText "branch_id" d.branchId 1 30
  Check.requiredText "account_nr" d.accountNr 1 30
  Check.optionalText "national_account_id" d.nationalAccountId 1 50

/-- The value of a field, whether or not the country requires it. -/
def value? (d : BankDetails) : BankField → Option String
  | .holderName => d.holderName
  | .holderId => d.holderId
  | .bankName => d.bankName
  | .bankId => d.bankId
  | .branchId => d.branchId
  | .accountNr => some d.accountNr
  | .accountType => d.accountType.map BankAccountType.name
  | .nationalAccountId => d.nationalAccountId

/-- Every field that the country requires is present; the first that is not is
reported. -/
def checkRequired (d : BankDetails) : Check :=
  let absent (field : BankField) := (d.value? field).isNone
  match (BankField.required d.country).find? absent with
  | some field => Check.fail field.name .missing
  | none => Check.pass

/-- The values that identify the account: those of the fields that the country
requires. -/
def identity (d : BankDetails) : List (String × String) :=
  (BankField.required d.country).flatMap fun field =>
    whenPresent field.name (d.value? field)

/-- The fields that are present, under the labels of the country. -/
def summary (d : BankDetails) : List (String × String) :=
  BankField.all.flatMap fun field =>
    whenPresent (field.label d.country) (d.value? field)

/-- The profile of a bank account on one rail. -/
def profile (rail : Rail) (currency : CurrencyChoice)
    (extra : List (String × String))
    (d : BankDetails) : Profile where
  rail := rail
  country := some d.country
  currency := some currency
  bank := some d
  identity := d.identity
  summary := d.summary ++ extra
  hint := d.accountNr

end BankDetails

-- ========================================== transfers inside a country

/-- Cash paid in at a branch of the recipient's bank, perhaps on conditions. -/
structure CashDeposit where
  bank : BankDetails
  requirements : Option String
  deriving DecidableEq, Repr

def CashDeposit.check (d : CashDeposit) : Check := do
  d.bank.checkRequired
  Check.optionalText "requirements" d.requirements 1 500

-- ====================================== transfers of the United States

/-- An account for transfers of the United States, with the holder's address
where it is known. -/
structure UsTransfer where
  bank : BankDetails
  holderAddress : Option String
  deriving DecidableEq, Repr

namespace UsTransfer

/-- The account of a holder at a bank of a routing number. -/
def ofHolder (holderName : String) (holderAddress : Option String)
    (bankName routingNr accountNr : String)
    (accountType : Option BankAccountType) : UsTransfer where
  bank :=
    { country := "US"
      currency := "USD"
      holderName := some holderName
      holderId := none
      bankName := some bankName
      bankId := some routingNr
      branchId := none
      accountNr := accountNr
      accountType := accountType
      nationalAccountId := none }
  holderAddress := holderAddress

def holderName (d : UsTransfer) : String := d.bank.holderName.getD ""

def routingNr (d : UsTransfer) : String := d.bank.bankId.getD ""

/-- A routing number that is present has nine digits; it is reported under its
own name. -/
def checkRoutingNr (d : UsTransfer) : Check :=
  match d.bank.bankId with
  | some routingNr => Check.digits "routing_nr" routingNr 9 9
  | none => Check.pass

/-- A present value, or the refusal of a message that lacks it. -/
def need (variant field : String) : Option String → Except AccountError String
  | some value => .ok value
  | none => .error (.missingRequiredField variant field)

/-- The rules that both kinds of transfer share; `variant` names the kind in a
refusal. -/
def verifyShared (variant : String) (d : UsTransfer) :
    Except AccountError Unit := do
  (Check.equals "country_code" d.bank.country "US").raise
  (Check.equals "selected_currency_code" d.bank.currency "USD").raise
  let holderName ← need variant "holder_name" d.bank.holderName
  (Check.name "holder_name" holderName).raise
  let _ ← need variant "bank_name" d.bank.bankName
  let _ ← need variant "routing_nr" d.bank.bankId
  d.checkRoutingNr.raise
  (Check.optionalText "holder_address" d.holderAddress 5 200).raise

/-- A transfer through the clearing house names the kind of the account. -/
def verifyAch (d : UsTransfer) : Except AccountError Unit := do
  d.verifyShared "AchTransfer"
  match d.bank.accountType with
  | some _ => pure ()
  | none => .error (.missingRequiredField "AchTransfer" "bank_account_type")

/-- A wire transfer does not. -/
def verifyWire (d : UsTransfer) : Except AccountError Unit := do
  d.verifyShared "DomesticWireTransfer"
  match d.bank.accountType with
  | some _ =>
    .error (.invalid "bank_account_type"
      (.notAllowed "account type on a wire transfer"))
  | none => pure ()

def profile (rail : Rail) (d : UsTransfer) : Profile :=
  d.bank.profile rail (.fixed d.bank.currency)
    (whenPresent "Holder address" d.holderAddress)

end UsTransfer

end FiatAccounts

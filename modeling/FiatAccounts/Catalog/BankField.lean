/-
The fields of a bank account whose presence or label depends on the country:
which of them a country requires, and what they are called there.
-/

namespace FiatAccounts

inductive BankField where
  | holderName
  | holderId
  | bankName
  | bankId
  | branchId
  | accountNr
  | accountType
  | nationalAccountId
  deriving DecidableEq, Repr

namespace BankField

/-- Every field, in the order in which fields are checked and shown. -/
def all : List BankField :=
  [.holderName, .holderId, .bankName, .bankId, .branchId, .accountNr,
   .accountType, .nationalAccountId]

/-- The name under which a fault of the field is reported. -/
def name : BankField → String
  | .holderName => "holder_name"
  | .holderId => "holder_id"
  | .bankName => "bank_name"
  | .bankId => "bank_id"
  | .branchId => "branch_id"
  | .accountNr => "account_nr"
  | .accountType => "bank_account_type"
  | .nationalAccountId => "national_account_id"

/-- The field of a name. -/
def ofName? (text : String) : Option BankField :=
  all.find? fun field => field.name == text

/-- The name of the field's kind, where fields are listed without values. -/
def kindName : BankField → String
  | .accountType => "account_type"
  | field => field.name

/-- The field of a kind's name. -/
def ofKindName? (text : String) : Option BankField :=
  all.find? fun field => field.kindName == text

/-- Whether a bank account of a country must carry the field. The holder's name
is never required here: each kind of payload has a rule of its own for it. -/
def isRequired (field : BankField) (country : String) : Bool :=
  match field with
  | .holderName => false
  | .holderId => ["BR", "CL", "AR"].contains country
  | .bankName => !(["GB", "AU", "NZ", "SE", "NO"].contains country)
  | .bankId => !(["GB", "BR", "NZ", "AU", "SE", "CL", "NO"].contains country)
  | .branchId => !(["US", "NZ", "MX", "HK", "SE", "NO"].contains country)
  | .accountNr => true
  | .accountType => ["US", "BR", "CA"].contains country
  | .nationalAccountId => country == "AR"

/-- The fields that a country requires, in the order of `all`. -/
def required (country : String) : List BankField :=
  all.filter fun field => field.isRequired country

/-- What the field is called in a country. -/
def label (field : BankField) (country : String) : String :=
  match field, country with
  | .holderName, _ => "Account owner full name"
  | .holderId, "BR" => "CPF"
  | .holderId, "CL" => "RUT"
  | .holderId, "AR" => "CUIT/CUIL"
  | .holderId, _ => "Personal ID"
  | .bankName, _ => "Bank name"
  | .bankId, "US" => "Routing number"
  | .bankId, "CA" => "Institution number"
  | .bankId, _ => "Bank ID (BIC/SWIFT)"
  | .branchId, "GB" => "Sort code"
  | .branchId, "AU" => "BSB code"
  | .branchId, "CA" => "Transit number"
  | .branchId, _ => "Branch number"
  | .accountNr, "MX" => "CLABE"
  | .accountNr, _ => "Account number"
  | .accountType, _ => "Account type"
  | .nationalAccountId, "AR" => "CBU"
  | .nationalAccountId, _ => "National account ID"

/-- The compact form of the label. -/
def shortLabel (field : BankField) (country : String) : String :=
  match field, country with
  | .holderName, _ => "Name"
  | .holderId, "AR" => "CUIT"
  | .holderId, "BR" => label .holderId "BR"
  | .holderId, "CL" => label .holderId "CL"
  | .holderId, _ => "ID"
  | .bankName, _ => "Bank"
  | .bankId, "US" => "Routing"
  | .bankId, "CA" => "Inst. nr."
  | .bankId, _ => "Bank ID"
  | .branchId, "GB" => label .branchId "GB"
  | .branchId, "AU" => label .branchId "AU"
  | .branchId, "CA" => "Transit"
  | .branchId, _ => "Branch"
  | .accountNr, "MX" => "CLABE"
  | .accountNr, _ => "Account"
  | .accountType, _ => "Type"
  | .nationalAccountId, "AR" => "CBU"
  | .nationalAccountId, _ => "National ID"

end BankField

end FiatAccounts

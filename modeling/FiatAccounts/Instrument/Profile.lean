/-
What every payment instrument tells about itself, whatever its kind. The rules
that all kinds share (the checks of country and currency, the fingerprint, the
summary on the screen) look at an instrument only through its profile.
-/
import FiatAccounts.Catalog.BankField
import FiatAccounts.Catalog.Rail
import FiatAccounts.Check.Text

namespace FiatAccounts

-- ============================================================ currency

/-- The currencies that an instrument is paid in, and who chose them. -/
inductive CurrencyChoice where
  /-- Implied by the rail or the country. -/
  | fixed (code : String)
  /-- One that the account's owner picked. -/
  | selected (code : String)
  /-- Several that the account's owner picked. -/
  | selectedMany (codes : List String)
  deriving DecidableEq, Repr

namespace CurrencyChoice

def codes : CurrencyChoice → List String
  | .fixed code => [code]
  | .selected code => [code]
  | .selectedMany codes => codes

/-- The name under which a fault of the choice is reported. -/
def field : CurrencyChoice → String
  | .fixed _ => "selected_currency_code"
  | .selected _ => "selected_currency_code"
  | .selectedMany _ => "selected_currency_codes"

end CurrencyChoice

-- ======================================================= bank accounts

/-- The two kinds of account that some countries tell apart. -/
inductive BankAccountType where
  | checking
  | savings
  deriving DecidableEq, Repr

namespace BankAccountType

def all : List BankAccountType := [.checking, .savings]

def name : BankAccountType → String
  | .checking => "CHECKING"
  | .savings => "SAVINGS"

def ofName? (text : String) : Option BankAccountType :=
  all.find? fun kind => kind.name == text

end BankAccountType

/-- A bank account with the fields of every country; which of them must be
there, the country decides. -/
structure BankDetails where
  country : String
  currency : String
  holderName : Option String
  holderId : Option String
  bankName : Option String
  bankId : Option String
  branchId : Option String
  accountNr : String
  accountType : Option BankAccountType
  nationalAccountId : Option String
  deriving DecidableEq, Repr

-- ============================================================ profiles

structure Profile where
  rail : Rail
  /-- The country that the instrument is declared in or bound to. -/
  country : Option String
  currency : Option CurrencyChoice
  /-- The bank account, for instruments that are one. -/
  bank : Option BankDetails
  /-- The values that a fingerprint may name, under their names. -/
  identity : List (String × String)
  /-- Labels and values for the screen. -/
  summary : List (String × String)
  /-- The value that an account is named after by default. -/
  hint : String

/-- A pair for a value that is present, none for one that is absent. -/
def whenPresent (label : String) : Option String → List (String × String)
  | some value => [(label, value)]
  | none => []

/-- Several codes as the screen shows them. -/
def joinCodes (codes : List String) : String :=
  String.intercalate ", " codes

end FiatAccounts

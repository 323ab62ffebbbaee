/-
Checks of country and currency codes against the catalogs.
-/
import FiatAccounts.Catalog.Country
import FiatAccounts.Catalog.Currency
import FiatAccounts.Check.Text

namespace FiatAccounts.Check

/-- The code of a country in the catalog. -/
def countryCode (field code : String) : Check :=
  if code = "" then fail field .empty
  else if Country.isKnown code then pass
  else fail field (.notAllowed code)

/-- The code of a currency in the catalog. -/
def currencyCode (field code : String) : Check :=
  if code = "" then fail field .empty
  else if Currency.isKnown code then pass
  else fail field (.notAllowed code)

/-- At least one code, and none that is not allowed; the first such code is
reported. -/
def countryCodes (field : String) (codes allowed : List String) : Check :=
  if codes = [] then fail field .empty
  else
    match codes.find? fun code => !allowed.contains code with
    | some code => fail field (.notAllowed code)
    | none => pass

end FiatAccounts.Check

/-
Checks of business identifier codes: four letters for the institution, two for
the country, two characters for the location and, in the long form, three for
the branch.
-/
import FiatAccounts.Check.Text

namespace FiatAccounts.Check

/-- A code of the short or the long form. A location that starts with 0 or 1
marks a test code, one that ends with the letter O a passive participant; a
branch that starts with X is only ever XXX; codes of REVO do not take transfers
of the area. -/
def bic (value : String) : Check :=
  let cs := value.toList
  if value = "" then fail "bic" .empty
  else if value.utf8ByteSize ≠ 8 ∧ value.utf8ByteSize ≠ 11 then
    fail "bic" (.pattern "8 or 11 characters")
  else if !(cs.take 6).all Char.isUpper
      || !(cs.drop 6).all isCapitalOrDigit then
    fail "bic"
      (.pattern "institution, country, location and optional branch code")
  else if cs[6]? = some '0' ∨ cs[6]? = some '1' then
    fail "bic" (.pattern "location code not starting with 0 or 1")
  else if cs[7]? = some 'O' then
    fail "bic" (.pattern "location code not ending with O")
  else if cs[8]? = some 'X' ∧ cs.drop 8 ≠ ['X', 'X', 'X'] then
    fail "bic" (.pattern "branch code starting with X to be XXX")
  else if cs.take 4 = ['R', 'E', 'V', 'O'] then fail "bic" (.notAllowed value)
  else pass

end FiatAccounts.Check

/-
Checks of international bank account numbers: two letters for the country, two
check digits and the number of the account within the country, which is up to
thirty letters and digits.

The check digits make the number a multiple of 97 plus one, once the first four
characters stand last and every letter is written as the two digits of 10 to
35. The remainder is taken character by character, so no large number comes up.
-/
import FiatAccounts.Check.Text
import FiatAccounts.Text.Blank
import FiatAccounts.Text.UpperCase

namespace FiatAccounts.Check

-- ================================================ the number by itself

def isIbanShape : List Char → Bool
  | a :: b :: c :: d :: account =>
    a.isUpper && b.isUpper && c.isDigit && d.isDigit && !account.isEmpty
      && account.length ≤ 30
      && account.all isCapitalOrDigit
  | _ => false

/-- The remainder by 97 after one more character. -/
def ibanStep (remainder : Nat) (c : Char) : Nat :=
  if c.isDigit then (10 * remainder + (c.toNat - '0'.toNat)) % 97
  else (100 * remainder + (c.toNat - 'A'.toNat + 10)) % 97

/-- The remainder by 97 of the number that a rearranged text spells. -/
def ibanRemainder (cs : List Char) : Nat :=
  (cs.drop 4 ++ cs.take 4).foldl ibanStep 0

/-- The fewest characters of any country's numbers. -/
def minIbanLength : Nat := 15

def iban (value : String) : Check :=
  let cs := value.toList
  if value = "" then fail "iban" .empty
  else if !isIbanShape cs then
    fail "iban" (.pattern "country code, check digits and BBAN")
  else if cs.length < minIbanLength then
    fail "iban" (.tooShort minIbanLength cs.length)
  else if ibanRemainder cs ≠ 1 then fail "iban" .checksum
  else pass

-- ========================================== the number and its country

/-- A number issued in one of the allowed countries. -/
def ibanOf (allowed : List String) (value : String) : Check := do
  iban value
  let country := String.ofList (value.toList.take 2)
  if allowed.contains country then pass else fail "iban" (.notAllowed country)

/-- The country that a number opens with, blanks aside and in upper case. -/
def ibanCountry (value : String) : String :=
  let shown := value.toList.filter fun c => !Text.Blank.isBlank c
  String.ofList ((shown.take 2).flatMap Text.UpperCase.upper)

/-- A number issued in the declared country. -/
def ibanCountryIs (value country : String) : Check :=
  let found := ibanCountry value
  if country = "" then fail "country_code" .empty
  else if found.length < 2 then fail "iban" (.tooShort 2 found.length)
  else if found ≠ country then fail "iban" (.mismatch country found)
  else pass

end FiatAccounts.Check

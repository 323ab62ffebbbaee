/-
Checks of the ways to reach a person: e-mail addresses and phone numbers.
Letters and digits are those of ASCII.
-/
import FiatAccounts.Check.Text

namespace FiatAccounts.Check

-- ============================================ splitting at a character

/-- What stands before and after the first occurrence of a character. -/
def splitFirst? (c : Char) : List Char → Option (List Char × List Char)
  | [] => none
  | d :: rest =>
    if d = c then some ([], rest)
    else (splitFirst? c rest).map fun (before, after) => (d :: before, after)

/-- What stands before and after the last occurrence of a character. -/
def splitLast? (c : Char) (cs : List Char) : Option (List Char × List Char) :=
  (splitFirst? c cs.reverse).map fun (after, before) =>
    (before.reverse, after.reverse)

-- ==================================================== e-mail addresses

/-- The characters before the at sign. -/
def isLocalChar (c : Char) : Bool :=
  c.isAlphanum || c == '+' || c == '_' || c == '.' || c == '-'

/-- The characters between the at sign and the last dot. -/
def isHostChar (c : Char) : Bool :=
  c.isAlphanum || c == '.' || c == '-'

/-- `local@host.tld`: the at sign is the first of the text, the dot the last
one after it; the top level domain has two letters or more. -/
def isEmail (cs : List Char) : Bool :=
  match splitFirst? '@' cs with
  | none => false
  | some (localPart, domain) =>
    match splitLast? '.' domain with
    | none => false
    | some (host, tld) =>
      !localPart.isEmpty && localPart.all isLocalChar && !host.isEmpty
        && host.all isHostChar
        && 2 ≤ tld.length && tld.all Char.isAlpha

/-- The most characters of an e-mail address. -/
def maxEmailLength : Nat := 100

def email (field value : String) : Check := do
  requiredText field value 1 maxEmailLength
  if isEmail value.toList then pass else fail field (.pattern "e-mail address")

-- ======================================================= phone numbers

/-- Digits, spaces and dashes with 6 to 15 digits among them. -/
def isLocalPhone (cs : List Char) : Bool :=
  cs.all (fun c => c.isDigit || c == ' ' || c == '-')
    && 6 ≤ cs.countP Char.isDigit && cs.countP Char.isDigit ≤ 15

/-- A phone number, which may open with one plus sign. -/
def isPhone : List Char → Bool
  | '+' :: rest => isLocalPhone rest
  | cs => isLocalPhone cs

def phone (field value : String) : Check :=
  if value = "" then fail field .empty
  else if isPhone value.toList then pass
  else fail field (.pattern "phone number")

/-- An e-mail address if there is an at sign, otherwise a phone number. -/
def emailOrPhone (field value : String) : Check :=
  if value = "" then fail field .empty
  else if value.toList.contains '@' then email field value
  else if isPhone value.toList then pass
  else fail field (.pattern "e-mail address or phone number")

end FiatAccounts.Check

/-
Checks of one field's text: its length in characters, its being digits, its
being what another value says. A check succeeds with nothing or names the field
and the rule that the field breaks.
-/
import FiatAccounts.Error

namespace FiatAccounts

/-- The outcome of checking one field. -/
abbrev Check := Except FieldFault Unit

namespace Check

def pass : Check := .ok ()

def fail (field : String) (constraint : Constraint) : Check :=
  .error ⟨field, constraint⟩

/-- A text that must be there, of `min` to `max` characters. -/
def requiredText (field value : String) (min max : Nat) : Check :=
  if value = "" then fail field .empty
  else if value.length < min then fail field (.tooShort min value.length)
  else if max < value.length then fail field (.tooLong max value.length)
  else pass

/-- A text that may be absent; a present one obeys `requiredText`. -/
def optionalText (field : String) (value : Option String) (min max : Nat) :
    Check :=
  match value with
  | some value => requiredText field value min max
  | none => pass

/-- The most characters that the id of a payload or an account may have. -/
def maxIdLength : Nat := 50

def id (field value : String) : Check :=
  requiredText field value 1 maxIdLength

/-- The name of a person or a firm. -/
def name (field value : String) : Check :=
  requiredText field value 2 100

/-- A postal address on one line. -/
def address (field value : String) : Check :=
  requiredText field value 5 200

/-- A text of `min` to `max` characters, all of them the digits 0 to 9. -/
def digits (field value : String) (min max : Nat) : Check := do
  requiredText field value min max
  if value.toList.all Char.isDigit then pass
  else fail field (.pattern "digits only")

/-- A value that another one already fixes. -/
def equals (field value expected : String) : Check :=
  if value = expected then pass else fail field (.mismatch expected value)

/-- A capital letter or a digit of ASCII. -/
def isCapitalOrDigit (c : Char) : Bool :=
  c.isUpper || c.isDigit

end Check

end FiatAccounts

/-
Why an operation was refused.

A fault of a single field (`FieldFault`) is something the person who typed the
value can mend; every other cause of `AccountError` concerns bytes,
configuration or keys, and the same input fails the same way again. Causes are
data. Their wording is fixed once, in the `message` functions, so that a law
about failures never speaks of text.
-/
import FiatAccounts.Text.Quoted

namespace FiatAccounts

-- ================================================= faults of one field

/-- The rule that a field's value breaks. Lengths are counted as the rule
counts them. -/
inductive Constraint where
  | empty
  | tooShort (min actual : Nat)
  | tooLong (max actual : Nat)
  | pattern (expected : String)
  | notAllowed (value : String)
  | checksum
  | mismatch (expected actual : String)
  | missing
  deriving DecidableEq, Repr

/-- The rule in words, as it follows the field's name. -/
def Constraint.message : Constraint → String
  | .empty => "must not be empty"
  | .tooShort min actual => s!"must be at least {min} characters, got {actual}"
  | .tooLong max actual => s!"must be at most {max} characters, got {actual}"
  | .pattern expected => s!"expected {expected}"
  | .notAllowed value => s!"{value} is not supported"
  | .checksum => "checksum verification failed"
  | .mismatch expected actual => s!"expected {expected} but found {actual}"
  | .missing => "is required"

/-- A named field together with the rule it breaks. -/
structure FieldFault where
  field : String
  constraint : Constraint
  deriving DecidableEq, Repr

def FieldFault.message (fault : FieldFault) : String :=
  s!"invalid {fault.field}: {fault.constraint.message}"

-- ======================================== faults of bytes and settings

/-- Why bytes are no message of this library. -/
inductive DecodeFault where
  /-- The bytes break the wire format. -/
  | malformed
  /-- More bytes than the configured limit allows. -/
  | oversize (size limit : Nat)
  | unknownBankAccountType (name : String)
  | unknownKeyAlgorithm (name : String)
  | unknownAccountOrigin (name : String)
  /-- A cause that a caller reports in words of its own. -/
  | reported (text : String)
  deriving DecidableEq, Repr

def DecodeFault.message : DecodeFault → String
  | .malformed => "malformed message"
  | .oversize size limit => s!"{size} bytes exceeds limit of {limit}"
  | .unknownBankAccountType name =>
    "unknown bank account type " ++ Text.Quoted.quote name
  | .unknownKeyAlgorithm name =>
    "unknown key algorithm " ++ Text.Quoted.quote name
  | .unknownAccountOrigin name =>
    "unknown account origin " ++ Text.Quoted.quote name
  | .reported text => text

/-- Why a configuration is unusable. -/
inductive ConfigFault where
  /-- The text is not a configuration at all. -/
  | malformed
  | wireLimitZero
  | toleranceNegative
  | lifetimeNotPositive
  deriving DecidableEq, Repr

def ConfigFault.message : ConfigFault → String
  | .malformed => "malformed configuration text"
  | .wireLimitZero => "max_wire_len must be positive"
  | .toleranceNegative => "witness_clock_tolerance_ms must not be negative"
  | .lifetimeNotPositive => "witness_ttl_ms must be positive"

-- ======================================================= every refusal

/-- Every way in which an operation on accounts, payloads or witnesses can
fail. -/
inductive AccountError where
  | fieldValidation (fault : FieldFault)
  /-- No variant, an unknown one, or one that disagrees with its
  surroundings. -/
  | unresolvableVariant (level detail : String)
  /-- A message lacks a field that its variant cannot do without. -/
  | missingRequiredField (variant field : String)
  | decode (fault : DecodeFault)
  | config (fault : ConfigFault)
  | signature (text : String)
  | ageWitness (text : String)
  deriving DecidableEq, Repr

namespace AccountError

/-- The refusal of one field's value. -/
def invalid (field : String) (constraint : Constraint) : AccountError :=
  .fieldValidation ⟨field, constraint⟩

/-- The refusal in words. -/
def message : AccountError → String
  | .fieldValidation fault => fault.message
  | .unresolvableVariant level detail =>
    s!"unresolvable {level} variant: {detail}"
  | .missingRequiredField variant field => s!"{variant} requires {field}"
  | .decode fault => "decode error: " ++ fault.message
  | .config fault => "invalid configuration: " ++ fault.message
  | .signature text => "signature error: " ++ text
  | .ageWitness text => "age witness rejected: " ++ text

/-- The stable number of each kind of refusal. -/
def code : AccountError → Nat
  | .signature _ => 3100
  | .ageWitness _ => 3101
  | .fieldValidation _ => 5001
  | .decode _ => 5002
  | .config _ => 5003
  | .unresolvableVariant .. => 5100
  | .missingRequiredField .. => 5101

/-- Only a field's value can be corrected by the one who gave it. -/
def recoverable : AccountError → Bool
  | .fieldValidation _ => true
  | _ => false

end AccountError

end FiatAccounts

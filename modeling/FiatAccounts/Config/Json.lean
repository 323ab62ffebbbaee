/-
Configurations as JSON text.

A configuration is an object. Settings that it leaves out have their standard
values, names that it does not know are skipped with their values, and no
setting may come twice. An array of up to three numbers, the settings in order,
is read as well. The numbers are whole and fit their settings' types.
-/
import FiatAccounts.Config.Basic
import FiatAccounts.Json.Scan

namespace FiatAccounts.Config

open Json

-- ============================================================ settings

inductive Setting where
  | maxWireLength
  | clockTolerance
  | lifetime
  deriving DecidableEq, Repr

namespace Setting

/-- The settings in order. -/
def all : List Setting := [.maxWireLength, .clockTolerance, .lifetime]

def key : Setting → String
  | .maxWireLength => "max_wire_len"
  | .clockTolerance => "witness_clock_tolerance_ms"
  | .lifetime => "witness_ttl_ms"

def ofKey? (text : String) : Option Setting :=
  all.find? fun setting => setting.key == text

/-- Whether a number fits the setting's type: 64 bits, with a sign for spans of
time. -/
def admits (setting : Setting) (n : Int) : Bool :=
  match setting with
  | .maxWireLength => 0 ≤ n && n.toNat < UInt64.size
  | .clockTolerance => Int64.minValue.toInt ≤ n && n ≤ Int64.maxValue.toInt
  | .lifetime => Int64.minValue.toInt ≤ n && n ≤ Int64.maxValue.toInt

end Setting

/-- The settings that a text has given so far. -/
abbrev Given := List (Setting × Int)

/-- The settings given, over the standard ones. -/
def ofGiven (given : Given) : Config where
  maxWireLength :=
    match given.lookup .maxWireLength with
    | some n => n.toNat
    | none => standard.maxWireLength
  clockTolerance :=
    match given.lookup .clockTolerance with
    | some n => Int64.ofInt n
    | none => standard.clockTolerance
  lifetime :=
    match given.lookup .lifetime with
    | some n => Int64.ofInt n
    | none => standard.lifetime

-- ============================================================= reading

/-- A value of the setting, which was not given before. -/
def readSetting (setting : Setting) (given : Given) (cs : List Char) :
    Option (Given × List Char) :=
  match readInteger (skipBlanks cs) with
  | some (n, rest) =>
    if setting.admits n ∧ (given.lookup setting).isNone then
      some ((setting, n) :: given, rest)
    else none
  | none => none

/-- The members of an object from a key on, up to the closing brace. -/
def readMembers :
    (steps : Nat) → Given → List Char → Option (Given × List Char)
  | 0, _, _ => none
  | steps + 1, given, cs => do
    let ('"' :: cs) := skipBlanks cs | none
    let (key, cs) ← readString cs
    let (':' :: cs) := skipBlanks cs | none
    let (given, cs) ←
      match Setting.ofKey? key with
      | some setting => readSetting setting given cs
      | none => (skipValue cs).map fun rest => (given, rest)
    match skipBlanks cs with
    | ',' :: cs => readMembers steps given cs
    | '\x7d' :: cs => some (given, cs)
    | _ => none

/-- The numbers of an array, one for each setting, up to the closing
bracket. -/
def readElements :
    List Setting → Given → List Char → Option (Given × List Char)
  | [], _, _ => none
  | setting :: settings, given, cs => do
    let (given, cs) ← readSetting setting given cs
    match skipBlanks cs with
    | ',' :: cs => readElements settings given cs
    | ']' :: cs => some (given, cs)
    | _ => none

/-- The settings of an object or an array. -/
def readGiven (cs : List Char) : Option (Given × List Char) :=
  match skipBlanks cs with
  | '\x7b' :: cs =>
    match skipBlanks cs with
    | '\x7d' :: rest => some ([], rest)
    | _ => readMembers cs.length [] cs
  | '[' :: cs =>
    match skipBlanks cs with
    | ']' :: rest => some ([], rest)
    | _ => readElements Setting.all [] cs
  | _ => none

/-- The configuration of a text, with nothing but blanks after it. -/
def ofJson (text : String) : Except AccountError Config :=
  match readGiven text.toList with
  | some (given, rest) =>
    if skipBlanks rest = [] then do
      (ofGiven given).validate
      pure (ofGiven given)
    else .error (.config .malformed)
  | none => .error (.config .malformed)

-- ============================================================= writing

/-- The configuration as an object of all settings, without blanks. -/
def toJson (c : Config) : String :=
  let member (setting : Setting) (value : String) :=
    "\"" ++ setting.key ++ "\":" ++ value
  "\x7b" ++ String.intercalate ","
    [member .maxWireLength (toString c.maxWireLength),
     member .clockTolerance (toString c.clockTolerance.toInt),
     member .lifetime (toString c.lifetime.toInt)] ++ "\x7d"

end FiatAccounts.Config

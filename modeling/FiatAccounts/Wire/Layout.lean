/-
A layout says how a value lies in the numbered fields of a message: what the
value is when no field has been seen, what each field changes, and which fields
are written for it.

A layout heeds only the numbers it writes and leaves the value alone at every
other. So layouts combine side by side (`both`), and a message is read by
folding `merge` over its fields, in whatever order they came: a later field
replaces an earlier one of its number, list entries are appended, and parts of
a nested message are merged into what is there.

Values equal to the empty one are not written, optional ones are written
whenever they are present, and the fields of a value come in ascending order of
their numbers.
-/
import FiatAccounts.Text.Utf8
import FiatAccounts.Time.Millis
import FiatAccounts.Wire.Field

namespace FiatAccounts.Wire

structure Layout (α : Type) where
  /-- The value of a message without fields. -/
  empty : α
  /-- The value after one more field. The budget bounds how deep messages may
  still nest. -/
  merge : (budget : Nat) → α → Field → Option α
  /-- The fields that carry a value. -/
  write : α → List Field

namespace Layout

variable {α β : Type}

-- ====================================================== whole messages

/-- The bytes of a value. -/
def encode (layout : Layout α) (value : α) : List UInt8 :=
  writeAll (layout.write value)

/-- The value after all fields of the bytes. -/
def mergeAll (layout : Layout α) (budget : Nat) (value : α)
    (bytes : List UInt8) : Option α :=
  match readAll budget bytes with
  | some fields => fields.foldlM (layout.merge budget) value
  | none => none

/-- How deep messages and groups may nest inside a message. -/
def depthLimit : Nat := 100

/-- The value that the bytes of a whole message carry. -/
def decode? (layout : Layout α) (bytes : List UInt8) : Option α :=
  layout.mergeAll depthLimit layout.empty bytes

/-- Merges the bytes of a message nested in another; the nesting uses up one of
the budget. -/
def mergeNested (layout : Layout α) (budget : Nat) (value : α)
    (bytes : List UInt8) : Option α :=
  match budget with
  | 0 => none
  | budget + 1 => layout.mergeAll budget value bytes

-- ======================================================= single fields

/-- A text; the empty text is not written. -/
def text (number : Nat) : Layout String where
  empty := ""
  merge _ value field :=
    if field.number = number then
      match field.value with
      | .bytes content => Text.Utf8.decode? content
      | _ => none
    else some value
  write value :=
    if value = "" then [] else [⟨number, .bytes (Text.Utf8.encode value)⟩]

/-- Bytes; no bytes are not written. -/
def blob (number : Nat) : Layout (List UInt8) where
  empty := []
  merge _ value field :=
    if field.number = number then
      match field.value with
      | .bytes content => some content
      | _ => none
    else some value
  write value := if value = [] then [] else [⟨number, .bytes value⟩]

/-- A signed number, as the unsigned number of the same 64 bits; zero is not
written. -/
def millis (number : Nat) : Layout Millis where
  empty := 0
  merge _ value field :=
    if field.number = number then
      match field.value with
      | .varint n => some (Int64.ofNat n)
      | _ => none
    else some value
  write value :=
    if value = 0 then [] else [⟨number, .varint value.toUInt64.toNat⟩]

/-- A text that may be absent; a present one is written even when it is
empty. -/
def optionalText (number : Nat) : Layout (Option String) where
  empty := none
  merge _ value field :=
    if field.number = number then
      match field.value with
      | .bytes content => (Text.Utf8.decode? content).map some
      | _ => none
    else some value
  write
    | some value => [⟨number, .bytes (Text.Utf8.encode value)⟩]
    | none => []

/-- A list of texts, one field for each. -/
def texts (number : Nat) : Layout (List String) where
  empty := []
  merge _ values field :=
    if field.number = number then
      match field.value with
      | .bytes content =>
        (Text.Utf8.decode? content).map fun value => values ++ [value]
      | _ => none
    else some values
  write values :=
    values.map fun value => ⟨number, .bytes (Text.Utf8.encode value)⟩

/-- A nested message that may be absent; a present one is written even when it
has no fields. -/
def message (number : Nat) (inner : Layout α) : Layout (Option α) where
  empty := none
  merge budget value field :=
    if field.number = number then
      match field.value with
      | .bytes content =>
        (inner.mergeNested budget (value.getD inner.empty) content).map some
      | _ => none
    else some value
  write
    | some value => [⟨number, .bytes (inner.encode value)⟩]
    | none => []

-- ======================================================== combinations

/-- A message without fields of its own. -/
def nothing : Layout Unit where
  empty := ()
  merge _ _ _ := some ()
  write _ := []

/-- Two layouts side by side; their numbers must differ. -/
def both (first : Layout α) (second : Layout β) : Layout (α × β) where
  empty := (first.empty, second.empty)
  merge budget value field :=
    match first.merge budget value.1 field,
      second.merge budget value.2 field with
    | some a, some b => some (a, b)
    | _, _ => none
  write value := first.write value.1 ++ second.write value.2

/-- The same fields for the values of another type. -/
def reshape (layout : Layout α) (forth : α → β) (back : β → α) : Layout β where
  empty := forth layout.empty
  merge budget value field :=
    (layout.merge budget (back value) field).map forth
  write value := layout.write (back value)

/-- One alternative of a choice: a nested message under a number of its own. -/
structure Arm (α : Type) where
  number : Nat
  /-- The choice after reading the arm's bytes; the parts of a former value of
  this arm are kept. -/
  merge : (budget : Nat) → Option α → List UInt8 → Option α
  /-- The arm's bytes, if the value belongs to this arm. -/
  encode? : α → Option (List UInt8)

/-- The arm of the values that `wrap` makes. -/
def Arm.of (number : Nat) (inner : Layout β) (wrap : β → α)
    (unwrap? : α → Option β) : Arm α where
  number := number
  merge budget former content :=
    let start := (former.bind unwrap?).getD inner.empty
    (inner.mergeNested budget start content).map wrap
  encode? value := (unwrap? value).map inner.encode

/-- Exactly one of several nested messages, or none. An arm's field replaces
any other arm. -/
def choice (arms : List (Arm α)) : Layout (Option α) where
  empty := none
  merge budget value field :=
    match arms.find? fun arm => arm.number == field.number with
    | some arm =>
      match field.value with
      | .bytes content => (arm.merge budget value content).map some
      | _ => none
    | none => some value
  write
    | some value =>
      (arms.findSome? fun arm => (arm.encode? value).map fun content =>
        (⟨arm.number, .bytes content⟩ : Field)).toList
    | none => []

end Layout

end FiatAccounts.Wire

/-
A message on the wire is a sequence of fields, each a key followed by a value.
The key carries the field's number and the kind of its value, and the kind
alone fixes where the value ends. So bytes split into fields before anything is
known about the message they belong to: `readAll` does that, and what a field
means is decided afterwards.

A group is a run of fields between a start key and an end key of one number. No
message here has groups, so the reader only steps over them. It keeps the
numbers of the groups that stand open, and the `budget` bounds how many may
stand open at once.
-/
import FiatAccounts.Wire.Varint

namespace FiatAccounts.Wire

-- ================================================================ keys

/-- How the bytes after a key are delimited. -/
inductive Kind where
  | varint
  | fixed64
  | bytes
  | groupStart
  | groupEnd
  | fixed32
  deriving DecidableEq, Repr

def Kind.code : Kind → Nat
  | .varint => 0
  | .fixed64 => 1
  | .bytes => 2
  | .groupStart => 3
  | .groupEnd => 4
  | .fixed32 => 5

def Kind.ofCode? : Nat → Option Kind
  | 0 => some .varint
  | 1 => some .fixed64
  | 2 => some .bytes
  | 3 => some .groupStart
  | 4 => some .groupEnd
  | 5 => some .fixed32
  | _ => none

structure Key where
  number : Nat
  kind : Kind
  deriving DecidableEq, Repr

/-- A key is one number: the kind in the low three bits, the field's number
above them. -/
def Key.write (key : Key) : List UInt8 :=
  Varint.write (8 * key.number + key.kind.code)

/-- The key at the front of the bytes. It fits in 32 bits and its field number
is not zero. -/
def Key.read (bytes : List UInt8) : Option (Key × List UInt8) :=
  match Varint.read bytes with
  | none => none
  | some (n, rest) =>
    if n < UInt32.size ∧ n / 8 ≠ 0 then
      match Kind.ofCode? (n % 8) with
      | some kind => some (⟨n / 8, kind⟩, rest)
      | none => none
    else none

/-- A key uses up at least one byte. -/
theorem Key.read_shorter {bytes rest : List UInt8} {key : Key}
    (h : Key.read bytes = some (key, rest)) : rest.length < bytes.length := by
  unfold Key.read at h
  split at h
  · cases h
  · next n tail hn =>
    have := Varint.read_shorter hn
    split at h
    · split at h
      · cases h; exact this
      · cases h
    · cases h

-- ============================================================== values

/-- The value of a field as the wire delimits it. The fields inside a group are
not kept. -/
inductive Value where
  | varint (n : Nat)
  | fixed64 (bytes : List UInt8)
  | bytes (bytes : List UInt8)
  | group
  | fixed32 (bytes : List UInt8)
  deriving DecidableEq, Repr

structure Field where
  number : Nat
  value : Value
  deriving DecidableEq, Repr

/-- The first `n` bytes, if there are as many, and the bytes after them. -/
def splitAt? (n : Nat) (bytes : List UInt8) :
    Option (List UInt8 × List UInt8) :=
  if (bytes.take n).length = n then some (bytes.take n, bytes.drop n) else none

/-- The value of one kind at the front of the bytes; groups are not read
here. -/
def readPlain (kind : Kind) (bytes : List UInt8) :
    Option (Value × List UInt8) :=
  match kind with
  | .varint => (Varint.read bytes).map fun (n, rest) => (.varint n, rest)
  | .fixed64 =>
    (splitAt? 8 bytes).map fun (content, rest) => (.fixed64 content, rest)
  | .bytes =>
    match Varint.read bytes with
    | some (n, rest) =>
      (splitAt? n rest).map fun (content, rest) => (.bytes content, rest)
    | none => none
  | .fixed32 =>
    (splitAt? 4 bytes).map fun (content, rest) => (.fixed32 content, rest)
  | .groupStart | .groupEnd => none

/-- What is left after a split is no longer than what was split. -/
theorem splitAt?_le {n : Nat} {bytes front rest : List UInt8}
    (h : splitAt? n bytes = some (front, rest)) :
    rest.length ≤ bytes.length := by
  unfold splitAt? at h
  split at h
  · cases h; simp
  · cases h

/-- A value may take no byte, but it gives none back. -/
theorem readPlain_le {kind : Kind} {bytes rest : List UInt8} {value : Value}
    (h : readPlain kind bytes = some (value, rest)) :
    rest.length ≤ bytes.length := by
  unfold readPlain at h
  split at h
  · obtain ⟨⟨n, rest'⟩, hr, he⟩ := Option.map_eq_some_iff.1 h
    cases he
    exact Nat.le_of_lt (Varint.read_shorter hr)
  · obtain ⟨⟨_, _⟩, hr, he⟩ := Option.map_eq_some_iff.1 h
    cases he
    exact splitAt?_le hr
  · split at h
    · next n tail hn =>
      obtain ⟨⟨_, _⟩, hr, he⟩ := Option.map_eq_some_iff.1 h
      cases he
      exact Nat.le_trans (splitAt?_le hr)
        (Nat.le_of_lt (Varint.read_shorter hn))
    · cases h
  · obtain ⟨⟨_, _⟩, hr, he⟩ := Option.map_eq_some_iff.1 h
    cases he
    exact splitAt?_le hr
  · cases h
  · cases h

-- ============================================================== groups

/-- Steps over the fields of the groups that stand open, the innermost first,
up to and with the key that ends the outermost. A field at a depth of `budget`
open groups is refused. -/
def skipGroups (budget : Nat) (standing : List Nat) (bytes : List UInt8) :
    Option (List UInt8) :=
  match standing with
  | [] => some bytes
  | innermost :: outer =>
    match _hk : Key.read bytes with
    | none => none
    | some (key, rest) =>
      match key.kind with
      | .groupEnd =>
        if key.number = innermost then skipGroups budget outer rest else none
      | .groupStart =>
        if outer.length + 1 < budget then
          skipGroups budget (key.number :: innermost :: outer) rest
        else none
      | kind =>
        if outer.length + 1 < budget then
          match _hp : readPlain kind rest with
          | some (_, rest') => skipGroups budget (innermost :: outer) rest'
          | none => none
        else none
termination_by bytes.length
decreasing_by
  · exact Key.read_shorter _hk
  · exact Key.read_shorter _hk
  · exact Nat.lt_of_le_of_lt (readPlain_le _hp) (Key.read_shorter _hk)

/-- To step over groups gives no byte back. -/
theorem skipGroups_le {budget : Nat} {standing : List Nat}
    {bytes rest : List UInt8}
    (h : skipGroups budget standing bytes = some rest) :
    rest.length ≤ bytes.length := by
  fun_induction skipGroups budget standing bytes with
  | case1 => cases h; exact Nat.le_refl _
  | case2 => cases h
  | case3 _ _ _ _ hk _ ih =>
    exact Nat.le_trans (ih h) (Nat.le_of_lt (Key.read_shorter hk))
  | case4 => cases h
  | case5 _ _ _ _ _ hk _ _ ih =>
    exact Nat.le_trans (ih h) (Nat.le_of_lt (Key.read_shorter hk))
  | case6 => cases h
  | case7 _ _ _ _ _ hk _ _ _ _ _ hp ih =>
    exact Nat.le_trans (ih h)
      (Nat.le_trans (readPlain_le hp) (Nat.le_of_lt (Key.read_shorter hk)))
  | case8 => cases h
  | case9 => cases h

-- ============================================================== fields

/-- The field at the front of the bytes. An end key that closes nothing is
refused. -/
def Field.read (budget : Nat) (bytes : List UInt8) :
    Option (Field × List UInt8) :=
  match Key.read bytes with
  | none => none
  | some (key, rest) =>
    match key.kind with
    | .groupStart =>
      if 0 < budget then
        (skipGroups budget [key.number] rest).map fun rest =>
          (⟨key.number, .group⟩, rest)
      else none
    | kind =>
      (readPlain kind rest).map fun (value, rest) =>
        (⟨key.number, value⟩, rest)

/-- A field uses up at least the bytes of its key, so a reader comes to an
end. -/
theorem Field.read_shorter {budget : Nat} {bytes rest : List UInt8}
    {field : Field}
    (h : Field.read budget bytes = some (field, rest)) :
    rest.length < bytes.length := by
  unfold Field.read at h
  split at h
  · cases h
  · next key tail hk =>
    have hlt := Key.read_shorter hk
    split at h
    · split at h
      · obtain ⟨_, hs, he⟩ := Option.map_eq_some_iff.1 h
        cases he
        exact Nat.lt_of_le_of_lt (skipGroups_le hs) hlt
      · cases h
    · obtain ⟨⟨_, _⟩, hp, he⟩ := Option.map_eq_some_iff.1 h
      cases he
      exact Nat.lt_of_le_of_lt (readPlain_le hp) hlt

/-- All fields of a message, in the order of the bytes. -/
def readAll (budget : Nat) (bytes : List UInt8) : Option (List Field) :=
  match bytes with
  | [] => some []
  | b :: tail =>
    match _h : Field.read budget (b :: tail) with
    | none => none
    | some (field, rest) => (readAll budget rest).map (field :: ·)
termination_by bytes.length
decreasing_by exact Field.read_shorter _h

/-- The bytes of a field. A group is written without content. -/
def Field.write (field : Field) : List UInt8 :=
  match field.value with
  | .varint n => Key.write ⟨field.number, .varint⟩ ++ Varint.write n
  | .fixed64 content => Key.write ⟨field.number, .fixed64⟩ ++ content
  | .bytes content =>
    Key.write ⟨field.number, .bytes⟩ ++ Varint.write content.length ++ content
  | .group =>
    Key.write ⟨field.number, .groupStart⟩
      ++ Key.write ⟨field.number, .groupEnd⟩
  | .fixed32 content => Key.write ⟨field.number, .fixed32⟩ ++ content

/-- The bytes of a sequence of fields. -/
def writeAll (fields : List Field) : List UInt8 :=
  fields.flatMap Field.write

end FiatAccounts.Wire

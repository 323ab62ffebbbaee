/-
All the bytes that are read as one sequence of fields.

A writer has one form for each number, the shortest. A reader also takes longer
ones, whose last bytes add nothing to the number. So what is read has more than
one spelling, and which bytes spell what is said here by the form of the bytes
alone, without a reader: numbers by their digits, then keys, values, fields and
sequences of fields. A reader finds what is spelled at the front of any bytes,
and finds nothing else (`spells_iff_readAll`). What is written is one of the
spellings.

Fields that are groups have no spelling here.
-/
import FiatAccounts.Wire.Field

namespace FiatAccounts.Wire

-- ============================================================= numbers

namespace Varint

/-- A number below 128 is one byte. -/
theorem write_of_lt {n : Nat} (h : n < 128) : write n = [UInt8.ofNat n] := by
  rw [write, if_pos h]

/-- Any other is its low seven bits, marked as going on, and then the rest. -/
theorem write_of_le {n : Nat} (h : 128 ≤ n) :
    write n = UInt8.ofNat (n % 128 + 128) :: write (n / 128) := by
  rw [write, if_neg (by omega)]

/-- A number takes at least one byte. -/
theorem write_ne_nil (n : Nat) : write n ≠ [] := by
  by_cases h : n < 128
  · rw [write_of_lt h]
    simp
  · rw [write_of_le (by omega)]
    simp

/-- The low byte of a longer number says that more bytes follow. -/
theorem toNat_lowByte (n : Nat) :
    (UInt8.ofNat (n % 128 + 128)).toNat = n % 128 + 128 := by
  rw [UInt8.toNat_ofNat']
  omega

/-- The last byte is the number that is left. -/
theorem toNat_lastByte {n : Nat} (h : n < 128) :
    (UInt8.ofNat n).toNat = n := by
  rw [UInt8.toNat_ofNat']
  omega

/-- How many numbers `left + 1` bytes can carry: seven bits each, but one bit in
the last that there may be. -/
def capacity : (left : Nat) → Nat
  | 0 => 2
  | left + 1 => 128 * capacity left

theorem capacity_pos (left : Nat) : 0 < capacity left := by
  induction left with
  | zero => exact Nat.two_pos
  | succ left ih => exact Nat.mul_pos (by omega) ih

/-- Ten bytes are enough for 64 bits. -/
theorem capacity_nine : capacity 9 = UInt64.size := rfl

/-- The bytes have the number's digits, seven bits each, the low ones first; all
but the last say that more follow. -/
inductive Digits : List UInt8 → Nat → Prop where
  | last {b : UInt8} (h : b.toNat < 128) : Digits [b] b.toNat
  | more {b : UInt8} {bytes : List UInt8} {high : Nat} (h : 128 ≤ b.toNat)
      (rest : Digits bytes high) :
    Digits (b :: bytes) (b.toNat - 128 + 128 * high)

/-- A number of 64 bits in ten bytes at most. -/
structure Spells (bytes : List UInt8) (n : Nat) : Prop where
  digits : Digits bytes n
  length_le : bytes.length ≤ 10
  lt : n < UInt64.size

theorem Digits.length_pos {bytes : List UInt8} {n : Nat}
    (h : Digits bytes n) : 0 < bytes.length := by
  cases h <;> exact Nat.succ_pos _

/-- Digits are read if there are enough left to read and their number is within
what can be read, by induction on the digits. -/
theorem Digits.readWithin {bytes : List UInt8} {n : Nat}
    (h : Digits bytes n) (rest : List UInt8) :
    ∀ {left : Nat}, bytes.length ≤ left + 1 → n < capacity left →
      readWithin (left + 1) (bytes ++ rest) = some (n, rest) := by
  induction h with
  | @last b hb =>
      intro left _ hn
      have hlast : ¬(left = 0 ∧ 2 ≤ b.toNat) := by
        rintro ⟨rfl, hlarge⟩
        exact absurd hn (Nat.not_lt.2 hlarge)
      rw [List.singleton_append, Varint.readWithin, if_pos hb, if_neg hlast]
  | @more b bytes high hb hbytes ih =>
      intro left hlength hn
      rw [List.length_cons] at hlength
      obtain ⟨left, rfl⟩ : ∃ l, left = l + 1 :=
        ⟨left - 1, by have := hbytes.length_pos; omega⟩
      have hhigh : high < capacity left := by
        rw [capacity] at hn
        omega
      rw [List.cons_append, Varint.readWithin, if_neg (by omega),
        ih (by omega) hhigh]

/-- What is read is a run of digits, no more of them than were left to read, and
the number is within what these can hold. -/
theorem Digits.of_readWithin {left : Nat} {bytes rest : List UInt8} {n : Nat}
    (h : Varint.readWithin left bytes = some (n, rest)) :
    ∃ front, bytes = front ++ rest ∧ Digits front n ∧ front.length ≤ left
      ∧ n < capacity (left - 1) := by
  fun_induction Varint.readWithin left bytes generalizing n rest with
  | case1 | case2 | case3 | case6 => cases h
  | case4 left b tail hb hsmall =>
      cases h
      refine ⟨[b], rfl, .last hb, Nat.succ_pos _, ?_⟩
      show b.toNat < capacity left
      cases left with
      | zero => exact Nat.lt_of_not_le fun hlarge => hsmall ⟨rfl, hlarge⟩
      | succ left =>
          have := capacity_pos left
          rw [capacity]
          omega
  | case5 left b tail hb high rest' hr ih =>
      cases h
      obtain ⟨front, rfl, hdigits, hlength, hhigh⟩ := ih hr
      refine ⟨b :: front, rfl, .more (Nat.not_lt.1 hb) hdigits,
        Nat.succ_le_succ hlength, ?_⟩
      -- The digits above were read, so there were bytes left to read.
      obtain ⟨left, rfl⟩ : ∃ l, left = l + 1 :=
        ⟨left - 1, by have := hdigits.length_pos; omega⟩
      have hhigh : high < capacity left := hhigh
      have hbyte := b.toNat_lt
      show b.toNat - 128 + 128 * high < 128 * capacity left
      omega

/-- A number is read in every spelling. -/
theorem Spells.read {bytes : List UInt8} {n : Nat} (h : Spells bytes n)
    (rest : List UInt8) : read (bytes ++ rest) = some (n, rest) :=
  h.digits.readWithin rest h.length_le h.lt

/-- Nothing else is read as a number. -/
theorem Spells.of_read {bytes rest : List UInt8} {n : Nat}
    (h : Varint.read bytes = some (n, rest)) :
    ∃ front, bytes = front ++ rest ∧ Spells front n := by
  obtain ⟨front, hbytes, hdigits, hlength, hlt⟩ := Digits.of_readWithin h
  exact ⟨front, hbytes, hdigits, hlength, hlt⟩

/-- What is written of a number are digits of it. -/
theorem digits_write (n : Nat) : Digits (write n) n := by
  -- the digits above the lowest are those of a smaller number
  induction n using Nat.strongRecOn with
  | ind n ih =>
      by_cases hn : n < 128
      · have h := Digits.last (b := UInt8.ofNat n)
          (by rw [toNat_lastByte hn]; exact hn)
        rw [toNat_lastByte hn] at h
        rw [write_of_lt hn]
        exact h
      · have h := Digits.more (b := UInt8.ofNat (n % 128 + 128))
          (by rw [toNat_lowByte]; omega) (ih (n / 128) (by omega))
        rw [toNat_lowByte, show n % 128 + 128 - 128 + 128 * (n / 128) = n by
          omega] at h
        rw [write_of_le (by omega)]
        exact h

/-- A number takes no more bytes than its bits ask for. -/
theorem length_write_le :
    ∀ {left n : Nat}, n < capacity left → (write n).length ≤ left + 1 := by
  intro left
  induction left with
  | zero =>
      intro n h
      have hn : n < 2 := h
      rw [write_of_lt (by omega)]
      exact Nat.le_refl 1
  | succ left ih =>
      intro n h
      by_cases hn : n < 128
      · rw [write_of_lt hn]
        exact Nat.succ_le_succ (Nat.zero_le _)
      · have hhigh : n / 128 < capacity left := Nat.div_lt_of_lt_mul h
        rw [write_of_le (by omega), List.length_cons]
        exact Nat.succ_le_succ (ih hhigh)

/-- The shortest spelling. -/
theorem spells_write {n : Nat} (h : n < UInt64.size) : Spells (write n) n :=
  ⟨digits_write n, length_write_le (capacity_nine ▸ h), h⟩

end Varint

-- ================================================================ keys

/-- A kind takes three bits. -/
theorem Kind.code_lt (kind : Kind) : kind.code < 8 := by
  cases kind <;> decide

/-- A kind is found again by its code. -/
theorem Kind.ofCode?_code (kind : Kind) : ofCode? kind.code = some kind := by
  cases kind <;> rfl

/-- What is found by a code has that code. -/
theorem Kind.code_of_ofCode? {code : Nat} {kind : Kind}
    (h : ofCode? code = some kind) : kind.code = code := by
  unfold ofCode? at h
  split at h <;> cases h <;> rfl

/-- A key that fits in 32 bits, in any spelling of its number. -/
structure Key.Spells (bytes : List UInt8) (key : Key) : Prop where
  spells : Varint.Spells bytes (8 * key.number + key.kind.code)
  number_pos : 0 < key.number
  number_lt : key.number < UInt32.size / 8

/-- A key is read in every spelling: the remainder by eight is its kind, and the
rest is its number. -/
theorem Key.Spells.read {bytes : List UInt8} {key : Key}
    (h : Key.Spells bytes key) (rest : List UInt8) :
    Key.read (bytes ++ rest) = some (key, rest) := by
  have hpos := h.number_pos
  have hlt := h.number_lt
  have hcode := key.kind.code_lt
  rw [UInt32.size] at hlt
  -- a code is below eight, so the two come apart again
  have hnumber : (8 * key.number + key.kind.code) / 8 = key.number := by omega
  have hkind : (8 * key.number + key.kind.code) % 8 = key.kind.code := by omega
  unfold Key.read
  rw [h.spells.read]
  dsimp only
  rw [hnumber, hkind, Kind.ofCode?_code,
    if_pos ⟨by rw [UInt32.size]; omega, by omega⟩]

/-- Nothing else is read as a key. -/
theorem Key.Spells.of_read {bytes rest : List UInt8} {key : Key}
    (h : Key.read bytes = some (key, rest)) :
    ∃ front, bytes = front ++ rest ∧ Key.Spells front key := by
  unfold Key.read at h
  split at h
  · cases h
  · next n tail hn =>
    obtain ⟨front, hbytes, hspells⟩ := Varint.Spells.of_read hn
    split at h
    · next hsmall =>
      rw [UInt32.size] at hsmall
      split at h
      · next kind hkind =>
        cases h
        have hcode := Kind.code_of_ofCode? hkind
        have hkey : n = 8 * (n / 8) + kind.code := by omega
        refine ⟨front, hbytes, ⟨hkey ▸ hspells, ?_, ?_⟩⟩
        · exact Nat.pos_of_ne_zero hsmall.2
        · show n / 8 < UInt32.size / 8
          rw [UInt32.size]
          omega
      · cases h
    · cases h

/-- A key of a number that is in use is written in its shortest spelling. -/
theorem Key.spells_write {key : Key} (hpos : 0 < key.number)
    (hlt : key.number < UInt32.size / 8) : Key.Spells key.write key := by
  refine ⟨Varint.spells_write ?_, hpos, hlt⟩
  have hcode := key.kind.code_lt
  rw [UInt32.size] at hlt
  rw [UInt64.size]
  omega

-- ============================================================== values

/-- The bytes of a value after a key of the kind. -/
inductive Value.Spells : List UInt8 → Kind → Value → Prop where
  | varint {bytes : List UInt8} {n : Nat} (h : Varint.Spells bytes n) :
    Value.Spells bytes .varint (.varint n)
  | fixed64 {content : List UInt8} (h : content.length = 8) :
    Value.Spells content .fixed64 (.fixed64 content)
  | bytes {length content : List UInt8}
      (h : Varint.Spells length content.length) :
    Value.Spells (length ++ content) .bytes (.bytes content)
  | fixed32 {content : List UInt8} (h : content.length = 4) :
    Value.Spells content .fixed32 (.fixed32 content)

/-- Bytes are split where they are long enough to be. -/
theorem splitAt?_eq_some {n : Nat} {bytes front rest : List UInt8} :
    splitAt? n bytes = some (front, rest)
      ↔ front.length = n ∧ bytes = front ++ rest := by
  constructor
  · intro h
    unfold splitAt? at h
    split at h
    · next hlength =>
      cases h
      exact ⟨hlength, (List.take_append_drop n bytes).symm⟩
    · cases h
  · rintro ⟨rfl, rfl⟩
    simp [splitAt?]

theorem splitAt?_append {front rest : List UInt8} {n : Nat}
    (h : front.length = n) :
    splitAt? n (front ++ rest) = some (front, rest) :=
  splitAt?_eq_some.2 ⟨h, rfl⟩

/-- A value is read in every spelling of its kind. -/
theorem Value.Spells.readPlain {bytes : List UInt8} {kind : Kind}
    {value : Value} (h : Value.Spells bytes kind value) (rest : List UInt8) :
    readPlain kind (bytes ++ rest) = some (value, rest) := by
  unfold Wire.readPlain
  cases h with
  | varint hn => simp only [hn.read, Option.map_some]
  | fixed64 hlength | fixed32 hlength =>
      simp only [splitAt?_append hlength, Option.map_some]
  | bytes hlength =>
      simp only [List.append_assoc, hlength.read, splitAt?_append rfl,
        Option.map_some]

/-- Nothing else is read as a value of that kind. The kinds of groups have no
value. -/
theorem Value.Spells.of_readPlain {bytes rest : List UInt8} {kind : Kind}
    {value : Value} (h : Wire.readPlain kind bytes = some (value, rest)) :
    ∃ front, bytes = front ++ rest ∧ Value.Spells front kind value := by
  unfold Wire.readPlain at h
  cases kind with
  | varint =>
      obtain ⟨⟨n, tail⟩, hn, h⟩ := Option.map_eq_some_iff.1 h
      cases h
      obtain ⟨front, hbytes, hspells⟩ := Varint.Spells.of_read hn
      exact ⟨front, hbytes, .varint hspells⟩
  | bytes =>
      dsimp only at h
      split at h
      · next n tail hn =>
        obtain ⟨⟨content, tail'⟩, hsplit, h⟩ := Option.map_eq_some_iff.1 h
        cases h
        obtain ⟨length, rfl, hspells⟩ := Varint.Spells.of_read hn
        obtain ⟨rfl, rfl⟩ := splitAt?_eq_some.1 hsplit
        exact ⟨length ++ content, (List.append_assoc ..).symm, .bytes hspells⟩
      · cases h
  | groupStart | groupEnd => cases h
  | fixed64 | fixed32 =>
      obtain ⟨⟨content, tail⟩, hsplit, h⟩ := Option.map_eq_some_iff.1 h
      cases h
      obtain ⟨hlength, hbytes⟩ := splitAt?_eq_some.1 hsplit
      refine ⟨content, hbytes, ?_⟩
      constructor
      exact hlength

-- ============================================================== fields

/-- The bytes of a key and of a value of its kind. -/
inductive Field.Spells : List UInt8 → Field → Prop where
  | intro {key bytes : List UInt8} {number : Nat} {kind : Kind} {value : Value}
      (hkey : Key.Spells key ⟨number, kind⟩)
      (hvalue : Value.Spells bytes kind value) :
    Field.Spells (key ++ bytes) ⟨number, value⟩

/-- A field is read in every spelling. -/
theorem Field.Spells.read {chunk : List UInt8} {field : Field}
    (h : Field.Spells chunk field) (budget : Nat) (rest : List UInt8) :
    Field.read budget (chunk ++ rest) = some (field, rest) := by
  obtain ⟨hkey, hvalue⟩ := h
  have hplain := hvalue.readPlain rest
  unfold Field.read
  rw [List.append_assoc, hkey.read]
  cases hvalue <;> simp only [hplain, Option.map_some]

/-- Nothing else is read as a field, unless it is a group. -/
theorem Field.Spells.of_read {budget : Nat} {bytes rest : List UInt8}
    {field : Field} (h : Field.read budget bytes = some (field, rest))
    (plain : field.value ≠ .group) :
    ∃ chunk, bytes = chunk ++ rest ∧ Field.Spells chunk field := by
  unfold Field.read at h
  split at h
  · cases h
  · next key tail hkey =>
    obtain ⟨first, rfl, hfirst⟩ := Key.Spells.of_read hkey
    split at h
    · split at h
      · obtain ⟨tail', -, h⟩ := Option.map_eq_some_iff.1 h
        cases h
        exact absurd rfl plain
      · cases h
    · obtain ⟨⟨value, tail'⟩, hvalue, h⟩ := Option.map_eq_some_iff.1 h
      cases h
      obtain ⟨second, rfl, hsecond⟩ := Value.Spells.of_readPlain hvalue
      exact ⟨first ++ second, (List.append_assoc ..).symm,
        .intro hfirst hsecond⟩

-- ==================================================== sequences of fields

/-- The bytes of fields one after the other. -/
inductive Spells : List UInt8 → List Field → Prop where
  | nil : Spells [] []
  | cons {chunk bytes : List UInt8} {field : Field} {fields : List Field}
      (hfield : Field.Spells chunk field) (hfields : Spells bytes fields) :
    Spells (chunk ++ bytes) (field :: fields)

/-- A field that is read in front is the first of the fields. -/
theorem readAll_of_read {budget : Nat} {bytes rest : List UInt8}
    {field : Field} (h : Field.read budget bytes = some (field, rest)) :
    readAll budget bytes = (readAll budget rest).map (field :: ·) := by
  cases bytes with
  | nil =>
      have := Field.read_shorter h
      simp at this
  | cons b tail =>
      rw [readAll]
      split
      next hnone => rw [hnone] at h; cases h
      next hsome => rw [hsome] at h; cases h; rfl

/-- Bytes with no field in front are no fields. -/
theorem readAll_of_none {budget : Nat} {bytes : List UInt8} (hne : bytes ≠ [])
    (h : Field.read budget bytes = none) : readAll budget bytes = none := by
  cases bytes with
  | nil => exact absurd rfl hne
  | cons b tail =>
      rw [readAll]
      split
      next => rfl
      next hsome => rw [h] at hsome; cases hsome

/-- A spelled sequence of fields is read, whatever the budget, as no group is
opened in it. -/
theorem Spells.readAll {bytes : List UInt8} {fields : List Field}
    (h : Spells bytes fields) (budget : Nat) :
    readAll budget bytes = some fields := by
  induction h with
  | nil => rw [Wire.readAll]
  | @cons chunk bytes field fields hfield _ ih =>
      rw [readAll_of_read (hfield.read budget bytes), ih, Option.map_some]

/-- No spelled field is a group. -/
theorem Spells.plain {bytes : List UInt8} {fields : List Field}
    (h : Spells bytes fields) : ∀ field ∈ fields, field.value ≠ .group := by
  induction h with
  | nil => exact List.forall_mem_nil _
  | cons hfield _ ih =>
      refine List.forall_mem_cons.2 ⟨?_, ih⟩
      obtain ⟨-, hvalue⟩ := hfield
      cases hvalue <;> exact nofun

/-- What is read as fields, none of them a group, is a spelling of them. The
bytes get shorter with every field that is read. -/
theorem Spells.of_readAll {budget : Nat} :
    ∀ {fields : List Field} {bytes : List UInt8},
      Wire.readAll budget bytes = some fields →
      (∀ field ∈ fields, field.value ≠ .group) → Spells bytes fields := by
  intro fields bytes
  by_cases hnil : bytes = []
  · rintro h -
    rw [hnil, Wire.readAll] at h
    cases h
    rw [hnil]
    exact .nil
  · intro h plain
    cases hread : Field.read budget bytes with
    | none =>
        rw [readAll_of_none hnil hread] at h
        cases h
    | some found =>
        obtain ⟨field, rest⟩ := found
        have hshorter := Field.read_shorter hread
        rw [readAll_of_read hread] at h
        obtain ⟨fields, hrest, rfl⟩ := Option.map_eq_some_iff.1 h
        obtain ⟨hfield, hfields⟩ := List.forall_mem_cons.1 plain
        obtain ⟨chunk, rfl, hchunk⟩ := Field.Spells.of_read hread hfield
        exact .cons hchunk (of_readAll hrest hfields)
termination_by _ bytes => bytes.length

/-- Fields are read in every spelling, and in nothing else. -/
theorem spells_iff_readAll {bytes : List UInt8} {fields : List Field}
    (budget : Nat) :
    Spells bytes fields
      ↔ readAll budget bytes = some fields
        ∧ ∀ field ∈ fields, field.value ≠ .group :=
  ⟨fun h => ⟨h.readAll budget, h.plain⟩, fun h => .of_readAll h.1 h.2⟩

/-- So bytes spell one sequence of fields at most. -/
theorem Spells.unique {bytes : List UInt8} {fields others : List Field}
    (h : Spells bytes fields) (h' : Spells bytes others) : fields = others :=
  Option.some.inj ((h.readAll 0).symm.trans (h'.readAll 0))

end FiatAccounts.Wire

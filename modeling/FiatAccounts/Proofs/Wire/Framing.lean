/-
Reading undoes writing, from single numbers up to whole messages.

Every law here has the same shape: what is read from the front of a written
value followed by any bytes is that value and those bytes, because what is
written is one of the spellings that a reader takes. So each piece says by
itself where it ends, and two sequences of pieces with the same bytes are the
same sequence. The second half of each section states that on its own, because
it holds where reading does not: a reader refuses a number of more than 64 bits,
but no two numbers of any size are written alike.

The bound that reading needs is the number of the bytes. A length is written as
a number, so bytes whose number does not fit in 64 bits have no length that a
reader takes. No memory holds as many; a list of bytes does not know that.
-/
import FiatAccounts.Proofs.Wire.Spelling

namespace FiatAccounts.Wire

-- ============================================================= numbers

namespace Varint

/-- A number is read back from the front of any bytes. -/
theorem read_write {n : Nat} (h : n < UInt64.size) (rest : List UInt8) :
    read (write n ++ rest) = some (n, rest) :=
  (spells_write h).read rest

/-- A number with more digits than are left to read is refused. The induction is
on how many are left: with one digit read there is one fewer, and the number has
seven bits less. -/
theorem readWithin_write_of_le (rest : List UInt8) :
    ∀ {left n : Nat}, capacity left ≤ n →
      readWithin (left + 1) (write n ++ rest) = none := by
  intro left
  induction left with
  | zero =>
      intro n h
      have hn : 2 ≤ n := h
      by_cases hsmall : n < 128
      · rw [write_of_lt hsmall, List.singleton_append, readWithin,
          toNat_lastByte hsmall, if_pos hsmall, if_pos ⟨rfl, hn⟩]
      · rw [write_of_le (by omega), List.cons_append, readWithin,
          toNat_lowByte, if_neg (by omega), readWithin]
  | succ left ih =>
      intro n h
      have hn : 128 * capacity left ≤ n := h
      have hpos : 0 < capacity left := capacity_pos left
      have hhigh : capacity left ≤ n / 128 :=
        (Nat.le_div_iff_mul_le (by omega)).2 (by omega)
      rw [write_of_le (by omega), List.cons_append, readWithin,
        toNat_lowByte, if_neg (by omega), ih hhigh]

/-- More than 64 bits are refused. -/
theorem read_write_of_le {n : Nat} (h : UInt64.size ≤ n)
    (rest : List UInt8) : read (write n ++ rest) = none :=
  readWithin_write_of_le rest (capacity_nine ▸ h)

/-- A number ends where its bytes say, whatever follows. -/
theorem write_append_inj :
    ∀ {m n : Nat} {s t : List UInt8},
      write m ++ s = write n ++ t → m = n ∧ s = t := by
  intro m
  induction m using Nat.strongRecOn with
  | ind m ih =>
      intro n s t h
      -- the first byte tells a short number from a long one
      by_cases hm : m < 128 <;> by_cases hn : n < 128
      · rw [write_of_lt hm, write_of_lt hn] at h
        obtain ⟨hbyte, hrest⟩ := List.cons.inj h
        have := congrArg UInt8.toNat hbyte
        rw [toNat_lastByte hm, toNat_lastByte hn] at this
        exact ⟨this, hrest⟩
      · rw [write_of_lt hm, write_of_le (by omega)] at h
        have := congrArg UInt8.toNat (List.cons.inj h).1
        rw [toNat_lastByte hm, toNat_lowByte] at this
        omega
      · rw [write_of_le (by omega), write_of_lt hn] at h
        have := congrArg UInt8.toNat (List.cons.inj h).1
        rw [toNat_lowByte, toNat_lastByte hn] at this
        omega
      · rw [write_of_le (by omega), write_of_le (n := n) (by omega)] at h
        obtain ⟨hbyte, hrest⟩ := List.cons.inj h
        have hlow := congrArg UInt8.toNat hbyte
        rw [toNat_lowByte, toNat_lowByte] at hlow
        obtain ⟨hhigh, hst⟩ := ih (m / 128) (by omega) hrest
        exact ⟨by omega, hst⟩

end Varint

-- ================================================================ keys

/-- So is a key, of a number that is in use. -/
theorem Key.read_write {key : Key} (hpos : 0 < key.number)
    (hlt : key.number < UInt32.size / 8) (rest : List UInt8) :
    Key.read (key.write ++ rest) = some (key, rest) :=
  (Key.spells_write hpos hlt).read rest

/-- A key ends where its bytes say, whatever follows, and number and kind are
told apart by the remainder by eight. -/
theorem Key.write_append_inj {a b : Key} {s t : List UInt8}
    (h : a.write ++ s = b.write ++ t) : a = b ∧ s = t := by
  obtain ⟨hkey, hrest⟩ := Varint.write_append_inj h
  have ha := a.kind.code_lt
  have hb := b.kind.code_lt
  have hcode : a.kind.code = b.kind.code := by omega
  have hnumber : a.number = b.number := by omega
  have hkind : some a.kind = some b.kind := by
    rw [← Kind.ofCode?_code, hcode, Kind.ofCode?_code]
  obtain ⟨number, kind⟩ := a
  obtain ⟨number', kind'⟩ := b
  cases hkind
  cases hnumber
  exact ⟨rfl, hrest⟩

-- ============================================================== fields

/-- The contents have the length that their kind prescribes. Groups have no
written contents and are left out. -/
def Value.Framed : Value → Prop
  | .varint n => n < UInt64.size
  | .fixed64 content => content.length = 8
  | .bytes _ => True
  | .group => False
  | .fixed32 content => content.length = 4

/-- A field whose bytes say by themselves where they end. -/
structure Field.Framed (field : Field) : Prop where
  number_pos : 0 < field.number
  number_lt : field.number < UInt32.size / 8
  value : field.value.Framed

/-- A field takes at least the bytes of its key. -/
theorem Field.write_ne_nil (field : Field) : field.write ≠ [] := by
  obtain ⟨number, value⟩ := field
  cases value <;> simp [Field.write, Key.write, Varint.write_ne_nil]

/-- A framed field is written in one of its spellings. -/
theorem Field.spells_write {field : Field} (framed : field.Framed)
    (fits : field.write.length < UInt64.size) :
    Field.Spells field.write field := by
  obtain ⟨number, value⟩ := field
  obtain ⟨hpos, hlt, hvalue⟩ := framed
  have hkey (kind : Kind) : Key.Spells (Key.write ⟨number, kind⟩)
      ⟨number, kind⟩ := Key.spells_write hpos hlt
  cases value with
  | varint n => exact .intro (hkey _) (.varint (Varint.spells_write hvalue))
  | fixed64 content => exact .intro (hkey _) (.fixed64 hvalue)
  | bytes content =>
      simp only [Field.write, List.length_append] at fits
      simp only [Field.write, List.append_assoc]
      exact .intro (hkey _) (.bytes (Varint.spells_write (by omega)))
  | group => exact hvalue.elim
  | fixed32 content => exact .intro (hkey _) (.fixed32 hvalue)

/-- So it is read back from the front of any bytes. -/
theorem Field.read_write {field : Field} (framed : field.Framed)
    (fits : field.write.length < UInt64.size) (budget : Nat)
    (rest : List UInt8) :
    Field.read budget (field.write ++ rest) = some (field, rest) :=
  (Field.spells_write framed fits).read budget rest

/-- A framed field ends where its bytes say, whatever follows. -/
theorem Field.write_append_inj {a b : Field} {s t : List UInt8}
    (ha : a.Framed) (hb : b.Framed) (h : a.write ++ s = b.write ++ t) :
    a = b ∧ s = t := by
  obtain ⟨number, value⟩ := a
  obtain ⟨number', value'⟩ := b
  have hvalue := ha.value
  have hvalue' := hb.value
  -- The keys agree, and a key names the kind: so both values are of one kind.
  cases value <;> cases value' <;>
    simp only [Field.write, List.append_assoc] at h <;>
    obtain ⟨hkey, hrest⟩ := Key.write_append_inj h <;>
    cases hkey
  case varint.varint =>
    obtain ⟨rfl, rfl⟩ := Varint.write_append_inj hrest
    exact ⟨rfl, rfl⟩
  case bytes.bytes =>
    obtain ⟨hlength, hcontent⟩ := Varint.write_append_inj hrest
    obtain ⟨rfl, rfl⟩ := List.append_inj hcontent hlength
    exact ⟨rfl, rfl⟩
  case group.group => exact hvalue.elim
  all_goals
    obtain ⟨rfl, rfl⟩ := List.append_inj hrest (hvalue.trans hvalue'.symm)
    exact ⟨rfl, rfl⟩

-- ==================================================== sequences of fields

theorem writeAll_cons (field : Field) (fields : List Field) :
    writeAll (field :: fields) = field.write ++ writeAll fields := rfl

theorem writeAll_append (fields others : List Field) :
    writeAll (fields ++ others) = writeAll fields ++ writeAll others :=
  List.flatMap_append

/-- Framed fields are written in one of their spellings. -/
theorem spells_writeAll :
    ∀ {fields : List Field}, (∀ field ∈ fields, field.Framed) →
      (writeAll fields).length < UInt64.size →
      Spells (writeAll fields) fields := by
  intro fields
  induction fields with
  | nil =>
      intro _ _
      exact .nil
  | cons field fields ih =>
      intro framed fits
      obtain ⟨hfield, hfields⟩ := List.forall_mem_cons.1 framed
      rw [writeAll_cons, List.length_append] at fits
      exact .cons (Field.spells_write hfield (by omega))
        (ih hfields (by omega))

/-- So they are read back from their bytes. -/
theorem readAll_writeAll {budget : Nat} {fields : List Field}
    (framed : ∀ field ∈ fields, field.Framed)
    (fits : (writeAll fields).length < UInt64.size) :
    readAll budget (writeAll fields) = some fields :=
  (spells_writeAll framed fits).readAll budget

/-- Framed fields with the same bytes are the same fields. -/
theorem writeAll_inj :
    ∀ {fields others : List Field}, (∀ field ∈ fields, field.Framed) →
      (∀ field ∈ others, field.Framed) →
      writeAll fields = writeAll others → fields = others := by
  intro fields
  induction fields with
  | nil =>
      -- a field has bytes, so neither sequence ends before the other
      intro others _ _ h
      cases others with
      | nil => rfl
      | cons other others =>
          rw [writeAll_cons] at h
          exact absurd (List.append_eq_nil_iff.1 h.symm).1 other.write_ne_nil
  | cons field fields ih =>
      intro others framed framed' h
      cases others with
      | nil =>
          rw [writeAll_cons] at h
          exact absurd (List.append_eq_nil_iff.1 h).1 field.write_ne_nil
      | cons other others =>
          rw [writeAll_cons, writeAll_cons] at h
          obtain ⟨rfl, hrest⟩ := Field.write_append_inj
            (framed field (List.mem_cons_self ..))
            (framed' other (List.mem_cons_self ..)) h
          rw [ih (fun f hf => framed f (List.mem_cons_of_mem field hf))
            (fun f hf => framed' f (List.mem_cons_of_mem field hf)) hrest]

end FiatAccounts.Wire

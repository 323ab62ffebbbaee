/-
What a reader sees of bytes that were cut short.

Wherever the cut falls inside a field, the reader runs out of bytes: a number is
cut where more bytes were announced, and contents are cut below the length that
was announced for them. Between two fields nothing is announced, so the bytes
are a shorter message and the reader takes them for one
(`readAll_of_cut`). That message is known: what remains of a value's fields are
the fields of a value again. If the layout ends with a choice, the choice was
the first to go (`Layout.Cuts`).
-/
import FiatAccounts.Proofs.Wire.Lawful

namespace FiatAccounts.Wire

-- ================================================================ cuts

section Cuts

variable {α : Type} {front whole first second : List α}

/-- The front of a sequence that has lost something at its end. -/
def Cut (front whole : List α) : Prop :=
  front <+: whole ∧ front ≠ whole

/-- A cut makes bytes fewer. -/
theorem Cut.length_lt (h : Cut front whole) : front.length < whole.length := by
  refine Nat.lt_of_le_of_ne h.1.length_le ?_
  intro hlength
  exact h.2 (h.1.eq_of_length hlength)

/-- Bytes are cut where something follows. -/
theorem cut_append (hne : second ≠ []) : Cut first (first ++ second) := by
  refine ⟨List.prefix_append first second, ?_⟩
  intro h
  exact hne (List.self_eq_append_right.1 h)

/-- Two sequences one after the other are cut in the first, or in the second
with the first left whole. -/
theorem Cut.of_append (h : Cut front (first ++ second)) :
    Cut front first ∨ ∃ rest, front = first ++ rest ∧ Cut rest second := by
  obtain ⟨hwhole, hne⟩ := h
  by_cases hfirst : first <+: front
  · obtain ⟨rest, rfl⟩ := hfirst
    refine .inr ⟨rest, rfl, (List.prefix_append_right_inj first).1 hwhole, ?_⟩
    rintro rfl
    exact hne rfl
  · have hfront : front <+: first :=
      (List.prefix_or_prefix_of_prefix hwhole
        (List.prefix_append first second)).resolve_right hfirst
    refine .inl ⟨hfront, ?_⟩
    rintro rfl
    exact hfirst (List.prefix_refl _)

end Cuts

-- ============================================================= numbers

namespace Varint

/-- Bytes that all say that more follow are no number. -/
theorem readWithin_unfinished {bytes : List UInt8}
    (h : ∀ b ∈ bytes, 128 ≤ b.toNat) (left : Nat) :
    readWithin left bytes = none := by
  induction bytes generalizing left with
  | nil => cases left <;> rfl
  | cons b bytes ih =>
      obtain ⟨hb, hbytes⟩ := List.forall_mem_cons.1 h
      cases left with
      | zero => rfl
      | succ left => rw [readWithin, if_neg (by omega), ih hbytes]

/-- Every byte of a number but the last says that more follow. -/
theorem unfinished_of_cut {front : List UInt8} {n : Nat}
    (h : Cut front (write n)) : ∀ b ∈ front, 128 ≤ b.toNat := by
  induction n using Nat.strongRecOn generalizing front with
  | ind n ih =>
      by_cases hn : n < 128
      · rw [write_of_lt hn] at h
        have hnil : front = [] :=
          List.eq_nil_of_length_eq_zero (Nat.lt_one_iff.1 h.length_lt)
        rw [hnil]
        exact List.forall_mem_nil _
      · rw [write_of_le (by omega), ← List.singleton_append] at h
        rcases h.of_append with hlow | ⟨rest, rfl, hrest⟩
        · have hnil : front = [] :=
            List.eq_nil_of_length_eq_zero (Nat.lt_one_iff.1 hlow.length_lt)
          rw [hnil]
          exact List.forall_mem_nil _
        · refine List.forall_mem_cons.2 ⟨?_, ih (n / 128) (by omega) hrest⟩
          rw [toNat_lowByte]
          omega

/-- No number is read from a part of one. -/
theorem read_of_cut {front : List UInt8} {n : Nat}
    (h : Cut front (write n)) : read front = none :=
  readWithin_unfinished (unfinished_of_cut h) 10

end Varint

-- ============================================================== fields

/-- No key is read from a part of one. -/
theorem Key.read_of_cut {front : List UInt8} {key : Key}
    (h : Cut front key.write) : Key.read front = none := by
  unfold Key.read
  rw [Varint.read_of_cut h]

/-- Contents that are not all there are not taken. -/
theorem splitAt?_of_lt {n : Nat} {bytes : List UInt8} (h : bytes.length < n) :
    splitAt? n bytes = none := by
  unfold splitAt?
  rw [if_neg]
  rw [List.length_take]
  omega

/-- Contents that were cut are shorter than the length that is written in front
of them. That length need not be one that a reader takes. -/
theorem readPlain_bytes_of_cut {content front : List UInt8}
    (h : Cut front (Varint.write content.length ++ content)) :
    readPlain .bytes front = none := by
  unfold readPlain
  rcases h.of_append with hlength | ⟨rest, rfl, hrest⟩
  · simp only [Varint.read_of_cut hlength]
  · by_cases hfits : content.length < UInt64.size
    · simp only [Varint.read_write hfits, splitAt?_of_lt hrest.length_lt,
        Option.map_none]
    · simp only [Varint.read_write_of_le (Nat.not_lt.1 hfits)]

/-- No field is read from a part of one. -/
theorem Field.read_of_cut {field : Field} (framed : field.Framed)
    (budget : Nat) {front : List UInt8} (h : Cut front field.write) :
    Field.read budget front = none := by
  obtain ⟨number, value⟩ := field
  obtain ⟨hpos, hlt, hvalue⟩ := framed
  -- A cut inside the key leaves no key; a cut after it leaves the key and a
  -- part of the value.
  have hcut {kind : Kind} {content : List UInt8}
      (h : Cut front (Key.write ⟨number, kind⟩ ++ content)) :
      Key.read front = none
        ∨ ∃ rest, Key.read front = some (⟨number, kind⟩, rest)
          ∧ Cut rest content := by
    rcases h.of_append with hkey | ⟨rest, rfl, hrest⟩
    · exact .inl (Key.read_of_cut hkey)
    · exact .inr ⟨rest, Key.read_write hpos hlt rest, hrest⟩
  unfold Field.read
  cases value with
  | varint n =>
      rcases hcut h with hnone | ⟨rest, hkey, hrest⟩
      · rw [hnone]
      · simp only [hkey, readPlain, Varint.read_of_cut hrest, Option.map_none]
  | fixed64 content =>
      rcases hcut h with hnone | ⟨rest, hkey, hrest⟩
      · rw [hnone]
      · have hshort : rest.length < 8 := hvalue ▸ hrest.length_lt
        simp only [hkey, readPlain, splitAt?_of_lt hshort, Option.map_none]
  | bytes content =>
      simp only [Field.write, List.append_assoc] at h
      rcases hcut h with hnone | ⟨rest, hkey, hrest⟩
      · rw [hnone]
      · simp only [hkey, readPlain_bytes_of_cut hrest, Option.map_none]
  | group => exact hvalue.elim
  | fixed32 content =>
      rcases hcut h with hnone | ⟨rest, hkey, hrest⟩
      · rw [hnone]
      · have hshort : rest.length < 4 := hvalue ▸ hrest.length_lt
        simp only [hkey, readPlain, splitAt?_of_lt hshort, Option.map_none]

-- ================================================= sequences of fields

/-- Whole fields stand before the cut and whole fields, one at least, are cut
off. -/
def CutBetween (front whole : List UInt8) : Prop :=
  ∃ before after : List Field,
    (∀ field ∈ before ++ after, field.Framed) ∧ after ≠ []
      ∧ front = writeAll before ∧ whole = writeAll (before ++ after)

/-- Bytes that are cut inside a field are no sequence of fields. -/
theorem readAll_of_cut {budget : Nat} :
    ∀ {fields : List Field} {bytes : List UInt8},
      (∀ field ∈ fields, field.Framed) → bytes.length < UInt64.size →
      Cut bytes (writeAll fields) →
      (∃ front, Cut front fields ∧ bytes = writeAll front)
        ∨ readAll budget bytes = none := by
  intro fields
  induction fields with
  | nil =>
      intro bytes _ _ h
      exact absurd h.length_lt (Nat.not_lt_zero _)
  | cons field fields ih =>
      intro bytes framed fits h
      obtain ⟨hfield, hfields⟩ := List.forall_mem_cons.1 framed
      rw [writeAll_cons] at h
      rcases h.of_append with hcut | ⟨rest, rfl, hrest⟩
      -- the first field is cut, or nothing is left of it and the cut is between
      · by_cases hnil : bytes = []
        · exact .inl ⟨[], cut_append (List.cons_ne_nil _ _), hnil⟩
        · have hnone := Field.read_of_cut hfield budget hcut
          exact .inr (readAll_of_none hnil hnone)
      -- the first field is whole, and the rest is cut
      · rw [List.length_append] at fits
        rcases ih hfields (by omega) hrest with ⟨front, hfront, rfl⟩ | hnone
        · refine .inl ⟨field :: front, ⟨?_, ?_⟩, rfl⟩
          · exact (List.prefix_cons_inj field).2 hfront.1
          · intro heq
            exact hfront.2 (List.cons.inj heq).2
        · have hread := Field.read_write hfield (by omega) budget rest
          exact .inr (by rw [readAll_of_read hread, hnone, Option.map_none])

/-- Where a cut falls is seen from the bytes alone: no other fields have the
same bytes. -/
theorem cutBetween_writeAll {fields : List Field} {bytes : List UInt8}
    (framed : ∀ field ∈ fields, field.Framed) :
    CutBetween bytes (writeAll fields)
      ↔ ∃ front, Cut front fields ∧ bytes = writeAll front := by
  constructor
  · rintro ⟨before, after, framed', hafter, rfl, hwhole⟩
    rw [writeAll_inj framed framed' hwhole]
    exact ⟨before, cut_append hafter, rfl⟩
  · rintro ⟨front, ⟨⟨after, rfl⟩, hne⟩, rfl⟩
    refine ⟨front, after, framed, ?_, rfl, rfl⟩
    rintro rfl
    exact hne (List.append_nil front).symm

/-- What stands before such a cut is a sequence of fields. -/
theorem CutBetween.isSome_readAll {front whole : List UInt8}
    (h : CutBetween front whole) (fits : front.length < UInt64.size)
    (budget : Nat) : (readAll budget front).isSome := by
  obtain ⟨before, after, framed, -, rfl, -⟩ := h
  rw [readAll_writeAll (List.forall_mem_append.1 framed).1 fits]
  rfl

-- ============================================================= layouts

namespace Layout

variable {α β : Type} {numbers : List Nat} {depth : Nat}

/-- What remains when fields are cut off from the end of a value's are the
fields of a value again, and an `Open` one. -/
structure Cuts (layout : Layout α) (Open : α → Prop) : Prop where
  empty : Open layout.empty
  write_empty : layout.write layout.empty = []
  exists_open : ∀ {value : α} {front : List Field},
    Cut front (layout.write value) →
    ∃ rest, Open rest ∧ layout.write rest = front

/-- Where there is one field at most, nothing remains. -/
theorem Cuts.of_single {layout : Layout α}
    (write_empty : layout.write layout.empty = [])
    (single : layout.Single) : layout.Cuts (· = layout.empty) where
  empty := rfl
  write_empty := write_empty
  exists_open {value front} h := by
    have hlength := Nat.lt_of_lt_of_le h.length_lt (single value)
    refine ⟨layout.empty, rfl, ?_⟩
    rw [write_empty, List.eq_nil_of_length_eq_zero (Nat.lt_one_iff.1 hlength)]

section Fields

variable {number : Nat}

theorem Cuts.text : (Layout.text number).Cuts (· = "") :=
  .of_single rfl .text

theorem Cuts.blob : (Layout.blob number).Cuts (· = []) :=
  .of_single rfl .blob

theorem Cuts.millis : (Layout.millis number).Cuts (· = 0) :=
  .of_single rfl .millis

theorem Cuts.message {inner : Layout α} :
    (Layout.message number inner).Cuts (· = none) :=
  .of_single rfl .message

theorem Cuts.choice {arms : List (Arm α)} :
    (Layout.choice arms).Cuts (· = none) :=
  .of_single rfl .choice

end Fields

/-- Fields are cut off from the second of two layouts first, so the second is
never whole. -/
theorem Cuts.both {first : Layout α} {second : Layout β} {P : α → Prop}
    {Q : β → Prop} (hfirst : first.Cuts P) (hsecond : second.Cuts Q) :
    (Layout.both first second).Cuts (fun value => Q value.2) where
  empty := hsecond.empty
  write_empty := by
    show first.write first.empty ++ second.write second.empty = []
    rw [hfirst.write_empty, hsecond.write_empty, List.append_nil]
  exists_open {value front} h := by
    obtain ⟨a, b⟩ := value
    have h : Cut front (first.write a ++ second.write b) := h
    rcases h.of_append with hcut | ⟨rest, rfl, hrest⟩
    · obtain ⟨a', -, ha'⟩ := hfirst.exists_open hcut
      refine ⟨(a', second.empty), hsecond.empty, ?_⟩
      show first.write a' ++ second.write second.empty = front
      rw [ha', hsecond.write_empty, List.append_nil]
    · obtain ⟨b', hb', hwrite⟩ := hsecond.exists_open hrest
      refine ⟨(a, b'), hb', ?_⟩
      show first.write a ++ second.write b' = first.write a ++ rest
      rw [hwrite]

/-- A value is open if what it is made of is. -/
theorem Cuts.reshape {layout : Layout α} {P : α → Prop} (cuts : layout.Cuts P)
    {forth : α → β} {back : β → α} (back_forth : ∀ a, back (forth a) = a) :
    (layout.reshape forth back).Cuts (fun value => P (back value)) where
  empty := by
    show P (back (forth layout.empty))
    rw [back_forth]
    exact cuts.empty
  write_empty := by
    show layout.write (back (forth layout.empty)) = []
    rw [back_forth, cuts.write_empty]
  exists_open {value front} h := by
    obtain ⟨rest, hopen, hwrite⟩ := cuts.exists_open h
    refine ⟨forth rest, ?_, ?_⟩
    · show P (back (forth rest))
      rw [back_forth]
      exact hopen
    · show layout.write (back (forth rest)) = front
      rw [back_forth, hwrite]

/-- A value that is not open can lose all of its fields. -/
theorem Lawful.cutBetween_nil {layout : Layout α}
    (lawful : layout.Lawful numbers depth) (usable : Usable numbers)
    {Open : α → Prop} (cuts : layout.Cuts Open) {value : α}
    (whole : ¬Open value) : CutBetween [] (layout.encode value) := by
  refine (cutBetween_writeAll (lawful.framed_of_usable usable)).2
    ⟨[], ⟨List.nil_prefix, ?_⟩, rfl⟩
  intro hnil
  rw [← cuts.write_empty] at hnil
  have hempty := lawful.write_inj usable.1 hnil
  rw [← hempty] at whole
  exact whole cuts.empty

/-- Bytes that are cut between fields carry an open value, and bytes that are
cut inside a field carry none. -/
theorem Lawful.decode?_of_cut {layout : Layout α}
    (lawful : layout.Lawful numbers depth) (usable : Usable numbers)
    (deep : depth ≤ depthLimit) {Open : α → Prop} (cuts : layout.Cuts Open)
    {value : α} {bytes : List UInt8} (fits : bytes.length < UInt64.size)
    (h : Cut bytes (layout.encode value)) :
    (CutBetween bytes (layout.encode value)
        → ∃ rest, Open rest ∧ layout.decode? bytes = some rest)
      ∧ (¬CutBetween bytes (layout.encode value)
        → layout.decode? bytes = none) := by
  have framed : ∀ field ∈ layout.write value, field.Framed :=
    lawful.framed_of_usable usable
  constructor
  · intro hbetween
    obtain ⟨front, hfront, rfl⟩ := (cutBetween_writeAll framed).1 hbetween
    obtain ⟨rest, hopen, rfl⟩ := cuts.exists_open hfront
    exact ⟨rest, hopen, (lawful.faithful usable).decode?_encode deep fits⟩
  · intro hinside
    have hnone : readAll depthLimit bytes = none := by
      rcases readAll_of_cut framed fits h with hfront | hnone
      · exact absurd ((cutBetween_writeAll framed).2 hfront) hinside
      · exact hnone
    unfold decode? mergeAll
    rw [hnone]

end Layout

end FiatAccounts.Wire

/-
When a layout is a faithful picture of its values.

`Lawful` gathers what a layout must keep to: it writes framed values under its
own numbers only, it heeds no other number, and if its numbers differ it finds
each value again in the fields that it wrote and writes no two values alike.
Every combination of layouts keeps these laws, so a layout is lawful by its
shape. What the shape does not show is whether the numbers can be used as they
are (`Usable`), and that is looked at once for all the fields of a message. The
`depth` of a layout is how deep the messages inside it nest: the budget that
reading needs.

A layout with both is `Faithful`. The bytes of a value decode to it, and values
with the same bytes are the same value. The first needs the bytes to be counted
by 64 bits, the second needs nothing.
-/
import FiatAccounts.Proofs.Wire.Framing
import FiatAccounts.Wire.Layout

namespace FiatAccounts.Wire.Layout

variable {α β : Type} {numbers others : List Nat} {depth : Nat}

-- ============================================================ the laws

/-- Numbers that fields can have next to each other. -/
def Usable (numbers : List Nat) : Prop :=
  numbers.Nodup
    ∧ ∀ number ∈ numbers, 0 < number ∧ number < UInt32.size / 8

instance (numbers : List Nat) : Decidable (Usable numbers) :=
  inferInstanceAs (Decidable (_ ∧ _))

/-- The laws of the fields. -/
structure Lawful (layout : Layout α) (numbers : List Nat) (depth : Nat) :
    Prop where
  framed : ∀ {value : α} {field : Field},
    field ∈ layout.write value → field.value.Framed
  number_mem : ∀ {value : α} {field : Field},
    field ∈ layout.write value → field.number ∈ numbers
  merge_other : ∀ {budget : Nat} {value : α} {field : Field},
    field.number ∉ numbers → layout.merge budget value field = some value
  restores : ∀ {budget : Nat} {value : α}, numbers.Nodup → depth ≤ budget →
    (layout.encode value).length < UInt64.size →
    (layout.write value).foldlM (layout.merge budget) layout.empty = some value
  write_inj : ∀ {value other : α}, numbers.Nodup →
    layout.write value = layout.write other → value = other

/-- The laws of the bytes. -/
structure Faithful (layout : Layout α) (depth : Nat) : Prop where
  mergeAll_encode : ∀ {budget : Nat} {value : α}, depth ≤ budget →
    (layout.encode value).length < UInt64.size →
    layout.mergeAll budget layout.empty (layout.encode value) = some value
  encode_inj : ∀ {value other : α},
    layout.encode value = layout.encode other → value = other

-- ===================================================== whole messages

/-- Only the fields of a layout's own numbers count. -/
theorem Lawful.foldlM_filter {layout : Layout α}
    (lawful : layout.Lawful numbers depth) {budget : Nat}
    (fields : List Field) (value : α) :
    (fields.filter fun field => field.number ∈ numbers).foldlM
        (layout.merge budget) value
      = fields.foldlM (layout.merge budget) value := by
  induction fields generalizing value with
  | nil => rfl
  | cons field fields ih =>
      by_cases h : field.number ∈ numbers
      · rw [List.filter_cons_of_pos (by simpa using h), List.foldlM_cons,
          List.foldlM_cons]
        exact congrArg _ (funext ih)
      · rw [List.filter_cons_of_neg (by simpa using h), ih, List.foldlM_cons,
          lawful.merge_other h]
        rfl

/-- A layout's fields are all of its own numbers. -/
theorem Lawful.filter_own {layout : Layout α}
    (lawful : layout.Lawful numbers depth) (value : α) :
    ((layout.write value).filter fun field => field.number ∈ numbers)
      = layout.write value := by
  rw [List.filter_eq_self]
  exact fun field hfield => decide_eq_true (lawful.number_mem hfield)

/-- Fields of other numbers only leave nothing. -/
theorem filter_eq_nil {fields : List Field}
    (h : ∀ field ∈ fields, field.number ∉ numbers) :
    (fields.filter fun field => field.number ∈ numbers) = [] := by
  rw [List.filter_eq_nil_iff]
  exact fun field hfield hmem => h field hfield (of_decide_eq_true hmem)

/-- Under usable numbers, framed values make framed fields. -/
theorem Lawful.framed_of_usable {layout : Layout α}
    (lawful : layout.Lawful numbers depth) (usable : Usable numbers)
    {value : α} : ∀ field ∈ layout.write value, field.Framed := by
  intro field h
  have hnumber := usable.2 _ (lawful.number_mem h)
  exact ⟨hnumber.1, hnumber.2, lawful.framed h⟩

/-- A lawful layout under usable numbers is faithful. -/
theorem Lawful.faithful {layout : Layout α}
    (lawful : layout.Lawful numbers depth) (usable : Usable numbers) :
    layout.Faithful depth where
  mergeAll_encode {budget value} deep fits := by
    have hread : readAll budget (layout.encode value)
        = some (layout.write value) :=
      readAll_writeAll (lawful.framed_of_usable usable) fits
    rw [mergeAll, hread]
    exact lawful.restores usable.1 deep fits
  encode_inj h :=
    lawful.write_inj usable.1
      (writeAll_inj (lawful.framed_of_usable usable)
        (lawful.framed_of_usable usable) h)

namespace Faithful

variable {layout : Layout α}

/-- A nested message is read with one less of the budget. -/
theorem mergeNested_encode (faithful : layout.Faithful depth) {budget : Nat}
    (deep : depth + 1 ≤ budget) {value : α}
    (fits : (layout.encode value).length < UInt64.size) :
    layout.mergeNested budget layout.empty (layout.encode value)
      = some value := by
  obtain ⟨budget, rfl⟩ : ∃ b, budget = b + 1 := ⟨budget - 1, by omega⟩
  exact faithful.mergeAll_encode (by omega) fits

/-- The bytes of a value decode to it. -/
theorem decode?_encode (faithful : layout.Faithful depth)
    (deep : depth ≤ depthLimit) {value : α}
    (fits : (layout.encode value).length < UInt64.size) :
    layout.decode? (layout.encode value) = some value :=
  faithful.mergeAll_encode deep fits

end Faithful

-- =================================================== one field at most

/-- A value has one field or none. -/
def Single (layout : Layout α) : Prop :=
  ∀ value, (layout.write value).length ≤ 1

section Single

variable {number : Nat}

private theorem length_unless_le {p : Prop} [Decidable p] {field : Field} :
    (if p then [] else [field]).length ≤ 1 := by
  split <;> simp

theorem Single.text : (Layout.text number).Single :=
  fun _ => length_unless_le

theorem Single.blob : (Layout.blob number).Single :=
  fun _ => length_unless_le

theorem Single.millis : (Layout.millis number).Single :=
  fun _ => length_unless_le

theorem Single.message {inner : Layout α} :
    (Layout.message number inner).Single :=
  fun value => by cases value <;> simp [Layout.message]

theorem Single.choice {arms : List (Arm α)} :
    (Layout.choice arms).Single := by
  intro value
  cases value with
  | none => exact Nat.zero_le 1
  | some value => exact Option.length_toList_le

end Single

-- ======================================================= single fields

/-- The value is found again in this one field. -/
structure Carries (layout : Layout α) (numbers : List Nat) (depth : Nat)
    (value : α) (field : Field) : Prop where
  framed : field.value.Framed
  number_mem : field.number ∈ numbers
  merge : ∀ {budget : Nat}, numbers.Nodup → depth ≤ budget →
    field.write.length < UInt64.size →
    layout.merge budget layout.empty field = some value

/-- A layout that writes at most one field, and none for the empty value only,
is lawful if that field carries the value. -/
theorem lawful_of_carries {layout : Layout α}
    (other : ∀ {budget : Nat} {value : α} {field : Field},
      field.number ∉ numbers → layout.merge budget value field = some value)
    (single : ∀ value : α, layout.write value = [] ∧ value = layout.empty
      ∨ ∃ field, layout.write value = [field]
          ∧ layout.Carries numbers depth value field)
    (inj : ∀ {value other : α} {field : Field}, numbers.Nodup →
      layout.write value = [field] → layout.write other = [field] →
      value = other) :
    layout.Lawful numbers depth where
  framed := by
    intro value field h
    rcases single value with ⟨hnil, -⟩ | ⟨carrier, hone, hcarries⟩
    · rw [hnil] at h; cases h
    · rw [hone, List.mem_singleton] at h
      exact h ▸ hcarries.framed
  number_mem := by
    intro value field h
    rcases single value with ⟨hnil, -⟩ | ⟨carrier, hone, hcarries⟩
    · rw [hnil] at h; cases h
    · rw [hone, List.mem_singleton] at h
      exact h ▸ hcarries.number_mem
  merge_other := other
  restores := by
    intro budget value distinct deep fits
    rcases single value with ⟨hnil, hempty⟩ | ⟨carrier, hone, hcarries⟩
    · rw [hnil, hempty]; rfl
    · rw [encode, hone, writeAll_cons, List.length_append] at fits
      rw [hone, List.foldlM_cons, hcarries.merge distinct deep (by omega)]
      rfl
  write_inj := by
    intro value value' distinct h
    rcases single value with ⟨hnil, hempty⟩ | ⟨carrier, hone, -⟩
    -- no field stands for the empty value only
    · rcases single value' with ⟨-, hempty'⟩ | ⟨carrier', hone', -⟩
      · rw [hempty, hempty']
      · rw [hnil, hone'] at h; cases h
    · exact inj distinct hone (h ▸ hone)

/-- The case of a value that is written unless it is the empty one. -/
theorem lawful_of_omitted [DecidableEq α] {layout : Layout α}
    (carrier : α → Field)
    (other : ∀ {budget : Nat} {value : α} {field : Field},
      field.number ∉ numbers → layout.merge budget value field = some value)
    (write : ∀ value, layout.write value
      = if value = layout.empty then [] else [carrier value])
    (carries : ∀ value, layout.Carries numbers depth value (carrier value))
    (inj : ∀ {value other : α}, carrier value = carrier other → value = other) :
    layout.Lawful numbers depth := by
  refine lawful_of_carries other ?_ ?_
  · intro value
    by_cases h : value = layout.empty
    · exact .inl ⟨by rw [write, if_pos h], h⟩
    · exact .inr ⟨carrier value, by rw [write, if_neg h], carries value⟩
  · intro value other field _ h h'
    rw [write] at h h'
    split at h
    · cases h
    · split at h'
      · cases h'
      · exact inj (by rw [List.singleton_inj.1 h, List.singleton_inj.1 h'])

/-- The case of a value that may be absent and is written whenever it is not. -/
theorem lawful_of_optional {layout : Layout (Option α)} (carrier : α → Field)
    (other : ∀ {budget : Nat} {value : Option α} {field : Field},
      field.number ∉ numbers → layout.merge budget value field = some value)
    (empty : layout.empty = none) (write_none : layout.write none = [])
    (write_some : ∀ value, layout.write (some value) = [carrier value])
    (carries : ∀ value,
      layout.Carries numbers depth (some value) (carrier value))
    (inj : ∀ {value other : α}, carrier value = carrier other → value = other) :
    layout.Lawful numbers depth := by
  refine lawful_of_carries other ?_ ?_
  · intro value
    cases value with
    | none => exact .inl ⟨write_none, empty.symm⟩
    | some value => exact .inr ⟨_, write_some value, carries value⟩
  · intro value other field _ h h'
    cases value with
    | none => rw [write_none] at h; cases h
    | some value =>
        cases other with
        | none => rw [write_none] at h'; cases h'
        | some other =>
            rw [write_some, List.singleton_inj] at h h'
            rw [inj (h.trans h'.symm)]

section Fields

variable {number : Nat}

/-- Two fields of one number with the same contents. -/
private theorem bytes_inj {content content' : List UInt8}
    (h : (⟨number, .bytes content⟩ : Field) = ⟨number, .bytes content'⟩) :
    content = content' :=
  Value.bytes.inj (Field.mk.inj h).2

private theorem ne_of_not_mem {field : Field}
    (h : field.number ∉ [number]) : ¬ field.number = number := by
  simpa using h

/-- A text is found again by its UTF-8, and an empty one is not written. -/
theorem Lawful.text :
    (Layout.text number).Lawful [number] depth := by
  refine lawful_of_omitted
    (fun value => ⟨number, .bytes (Text.Utf8.encode value)⟩)
    (fun h => if_neg (ne_of_not_mem h)) (fun _ => rfl) ?_
    (fun h => Text.Utf8.encode_inj (bytes_inj h))
  intro value
  refine ⟨trivial, List.mem_singleton_self _, ?_⟩
  intro budget _ _ _
  exact (if_pos rfl).trans (Text.Utf8.decode?_encode value)

/-- Bytes are found again as they are, and an empty run is not written. -/
theorem Lawful.blob :
    (Layout.blob number).Lawful [number] depth :=
  lawful_of_omitted (fun value => ⟨number, .bytes value⟩)
    (fun h => if_neg (ne_of_not_mem h)) (fun _ => rfl)
    (fun _ => ⟨trivial, List.mem_singleton_self _, fun _ _ _ => if_pos rfl⟩)
    bytes_inj

/-- The signed number of the unsigned number of the same 64 bits. -/
private theorem ofNat_toNat_toUInt64 (value : Millis) :
    Int64.ofNat value.toUInt64.toNat = value := by
  show Int64.ofUInt64 (UInt64.ofNat value.toUInt64.toNat) = value
  rw [UInt64.ofNat_toNat]

/-- An instant is written as the unsigned number of its 64 bits, and zero is not
written. -/
theorem Lawful.millis :
    (Layout.millis number).Lawful [number] depth := by
  refine lawful_of_omitted
    (fun value => ⟨number, .varint value.toUInt64.toNat⟩)
    (fun h => if_neg (ne_of_not_mem h)) (fun _ => rfl) ?_ ?_
  · intro value
    refine ⟨UInt64.toNat_lt_size _, List.mem_singleton_self _, ?_⟩
    intro budget _ _ _
    exact (if_pos rfl).trans (congrArg some (ofNat_toNat_toUInt64 value))
  · intro value other h
    have hbits := Value.varint.inj (Field.mk.inj h).2
    rw [← ofNat_toNat_toUInt64 value, hbits, ofNat_toNat_toUInt64]

/-- A text that may be absent is written whenever it is there, the empty one as
well. -/
theorem Lawful.optionalText :
    (Layout.optionalText number).Lawful [number] depth := by
  refine lawful_of_optional
    (fun value => ⟨number, .bytes (Text.Utf8.encode value)⟩)
    (fun h => if_neg (ne_of_not_mem h)) rfl rfl (fun _ => rfl) ?_
    (fun h => Text.Utf8.encode_inj (bytes_inj h))
  intro value
  refine ⟨trivial, List.mem_singleton_self _, ?_⟩
  intro budget _ _ _
  show (if number = number then _ else _) = _
  rw [if_pos rfl]
  show (Text.Utf8.decode? (Text.Utf8.encode value)).map some = _
  rw [Text.Utf8.decode?_encode, Option.map_some]

/-- A nested message is found again, and needs one more of the budget. -/
theorem Lawful.message {inner : Layout α} (faithful : inner.Faithful depth)
    :
    (Layout.message number inner).Lawful [number] (depth + 1) := by
  refine lawful_of_optional
    (fun value => ⟨number, .bytes (inner.encode value)⟩)
    (fun h => if_neg (ne_of_not_mem h)) rfl rfl (fun _ => rfl) ?_
    (fun h => faithful.encode_inj (bytes_inj h))
  intro value
  refine ⟨trivial, List.mem_singleton_self _, ?_⟩
  intro budget _ deep fits
  have hcontent : (inner.encode value).length < UInt64.size := by
    simp only [Field.write, List.length_append] at fits
    omega
  show (if number = number then _ else _) = _
  rw [if_pos rfl]
  show (inner.mergeNested budget inner.empty (inner.encode value)).map some = _
  rw [faithful.mergeNested_encode deep hcontent, Option.map_some]

/-- The entries of a list are appended one after the other. -/
private theorem foldlM_texts (budget : Nat) :
    ∀ (values before : List String),
      ((texts number).write values).foldlM ((texts number).merge budget) before
        = some (before ++ values) := by
  intro values
  induction values with
  | nil =>
      intro before
      rw [List.append_nil]
      rfl
  | cons value values ih =>
      intro before
      have hmerge : (texts number).merge budget before
          ⟨number, .bytes (Text.Utf8.encode value)⟩
          = some (before ++ [value]) := by
        show (if number = number then _ else _) = _
        rw [if_pos rfl]
        show (Text.Utf8.decode? (Text.Utf8.encode value)).map _ = _
        rw [Text.Utf8.decode?_encode, Option.map_some]
      show ((⟨number, .bytes (Text.Utf8.encode value)⟩ : Field)
        :: (texts number).write values).foldlM _ before = _
      rw [List.foldlM_cons, hmerge]
      show ((texts number).write values).foldlM _ (before ++ [value]) = _
      rw [ih, List.append_assoc, List.singleton_append]

/-- A list of texts is one field for each entry, the empty ones as well, in the
list's order. -/
theorem Lawful.texts :
    (Layout.texts number).Lawful [number] depth where
  framed := by
    intro values field h
    obtain ⟨value, -, rfl⟩ := List.mem_map.1 h
    exact trivial
  number_mem := by
    intro values field h
    obtain ⟨value, -, rfl⟩ := List.mem_map.1 h
    exact List.mem_singleton_self _
  merge_other h := if_neg (ne_of_not_mem h)
  restores _ _ _ := foldlM_texts _ _ []
  write_inj _ h :=
    List.map_inj_right (fun _ _ h => Text.Utf8.encode_inj (bytes_inj h)) |>.1 h

end Fields

-- ======================================================== combinations

/-- A layout without fields has one value and no bytes. -/
theorem Lawful.nothing : Layout.nothing.Lawful [] depth where
  framed h := by cases h
  number_mem h := by cases h
  merge_other _ := rfl
  restores _ _ _ := rfl
  write_inj _ _ := rfl

section Both

variable {first : Layout α} {second : Layout β} {budget : Nat}

/-- Side by side, the bytes of the first value stand in front of those of the
second. -/
theorem encode_both (a : α) (b : β) :
    (both first second).encode (a, b) = first.encode a ++ second.encode b :=
  writeAll_append _ _

/-- Each of two layouts reads the fields as if the other were not there. -/
theorem foldlM_both {fields : List Field} {a a' : α} {b b' : β}
    (hfirst : fields.foldlM (first.merge budget) a = some a')
    (hsecond : fields.foldlM (second.merge budget) b = some b') :
    fields.foldlM ((both first second).merge budget) (a, b)
      = some (a', b') := by
  induction fields generalizing a b with
  | nil =>
      cases hfirst
      cases hsecond
      rfl
  | cons field fields ih =>
      rw [List.foldlM_cons] at hfirst hsecond ⊢
      obtain ⟨next, hfield, hfirst⟩ := Option.bind_eq_some_iff.1 hfirst
      obtain ⟨next', hfield', hsecond⟩ := Option.bind_eq_some_iff.1 hsecond
      simp only [both, hfield, hfield']
      exact ih hfirst hsecond

section Numbers

variable (hfirst : first.Lawful numbers depth)
  (hsecond : second.Lawful others depth)
  (distinct : (numbers ++ others).Nodup) (a : α) (b : β)
include hfirst hsecond distinct

/-- The numbers tell the fields of the first of two layouts from the others. -/
theorem filter_both_first :
    ((both first second).write (a, b)).filter
      (fun field => field.number ∈ numbers) = first.write a := by
  have hdisjoint := (List.nodup_append.1 distinct).2.2
  have hother : ∀ field ∈ second.write b, field.number ∉ numbers :=
    fun field hfield hmem =>
      hdisjoint _ hmem _ (hsecond.number_mem hfield) rfl
  show (first.write a ++ second.write b).filter _ = _
  rw [List.filter_append, hfirst.filter_own, filter_eq_nil hother,
    List.append_nil]

/-- And those of the second from the fields of the first. -/
theorem filter_both_second :
    ((both first second).write (a, b)).filter
      (fun field => field.number ∈ others) = second.write b := by
  have hdisjoint := (List.nodup_append.1 distinct).2.2
  have hother : ∀ field ∈ first.write a, field.number ∉ others :=
    fun field hfield hmem =>
      hdisjoint _ (hfirst.number_mem hfield) _ hmem rfl
  show (first.write a ++ second.write b).filter _ = _
  rw [List.filter_append, hsecond.filter_own, filter_eq_nil hother,
    List.nil_append]

end Numbers

/-- Side by side, two layouts of different numbers do not meet: each finds the
fields of its own numbers and no more. -/
theorem Lawful.both (hfirst : first.Lawful numbers depth)
    (hsecond : second.Lawful others depth) :
    (Layout.both first second).Lawful (numbers ++ others) depth where
  framed h := by
    rcases List.mem_append.1 h with h | h
    · exact hfirst.framed h
    · exact hsecond.framed h
  number_mem h := by
    rcases List.mem_append.1 h with h | h
    · exact List.mem_append_left _ (hfirst.number_mem h)
    · exact List.mem_append_right _ (hsecond.number_mem h)
  merge_other h := by
    rw [List.mem_append, not_or] at h
    simp only [Layout.both, hfirst.merge_other h.1, hsecond.merge_other h.2]
  restores := by
    intro budget (a, b) distinct deep fits
    -- each layout heeds its own numbers only, so the fields may be sorted first
    have hown := filter_both_first hfirst hsecond distinct a b
    have hown' := filter_both_second hfirst hsecond distinct a b
    rw [encode_both, List.length_append] at fits
    obtain ⟨distinct, distinct', -⟩ := List.nodup_append.1 distinct
    refine foldlM_both ?_ ?_
    · rw [← hfirst.foldlM_filter, hown]
      exact hfirst.restores distinct deep (by omega)
    · rw [← hsecond.foldlM_filter, hown']
      exact hsecond.restores distinct' deep (by omega)
  write_inj := by
    intro (a, b) (a', b') distinct h
    -- the numbers tell in one list of fields what either layout wrote
    have hfields : first.write a = first.write a' := by
      rw [← filter_both_first hfirst hsecond distinct a b, h,
        filter_both_first hfirst hsecond distinct]
    have hfields' : second.write b = second.write b' := by
      rw [← filter_both_second hfirst hsecond distinct a b, h,
        filter_both_second hfirst hsecond distinct]
    obtain ⟨distinct, distinct', -⟩ := List.nodup_append.1 distinct
    rw [hfirst.write_inj distinct hfields, hsecond.write_inj distinct' hfields']

end Both

/-- The fields are read as for the values of the first type. -/
theorem foldlM_reshape {layout : Layout α} {forth : α → β}
    {back : β → α} (back_forth : ∀ a, back (forth a) = a) {budget : Nat} :
    ∀ (fields : List Field) (a : α),
      fields.foldlM ((layout.reshape forth back).merge budget) (forth a)
        = (fields.foldlM (layout.merge budget) a).map forth := by
  intro fields
  induction fields with
  | nil => intro a; rfl
  | cons field fields ih =>
      intro a
      rw [List.foldlM_cons, List.foldlM_cons]
      simp only [reshape, back_forth]
      cases layout.merge budget a field with
      | none => rfl
      | some a' => exact ih a'

/-- The same fields for another type of the same values. -/
theorem Lawful.reshape {layout : Layout α}
    (lawful : layout.Lawful numbers depth) {forth : α → β} {back : β → α}
    (back_forth : ∀ a, back (forth a) = a)
    (forth_back : ∀ b, forth (back b) = b) :
    (layout.reshape forth back).Lawful numbers depth where
  framed h := lawful.framed h
  number_mem h := lawful.number_mem h
  merge_other {budget value field} h := by
    show (layout.merge budget (back value) field).map forth = _
    rw [lawful.merge_other h, Option.map_some, forth_back]
  restores {budget value} distinct deep fits := by
    show (layout.write (back value)).foldlM _ (forth layout.empty) = _
    rw [foldlM_reshape back_forth, lawful.restores distinct deep fits,
      Option.map_some, forth_back]
  write_inj {value other} distinct h := by
    rw [← forth_back value, lawful.write_inj distinct h, forth_back]

/-- A message is made of fields side by side, seen as the parts of a
structure. -/
theorem Faithful.reshape {layout : Layout α} {forth : α → β} {back : β → α}
    (usable : Usable numbers) (back_forth : ∀ a, back (forth a) = a)
    (forth_back : ∀ b, forth (back b) = b)
    (lawful : layout.Lawful numbers depth) :
    (layout.reshape forth back).Faithful depth :=
  (lawful.reshape back_forth forth_back).faithful usable

theorem Faithful.nothing : Layout.nothing.Faithful depth :=
  Lawful.nothing.faithful (by decide)

-- ============================================================= choices

/-- What a choice needs of one arm: it finds each of its values again in the
bytes that it wrote, and it writes no two values alike. -/
structure Arm.Lawful (arm : Arm α) (depth : Nat) : Prop where
  restores : ∀ {budget : Nat} {value : α} {content : List UInt8},
    depth ≤ budget → arm.encode? value = some content →
    content.length < UInt64.size →
    arm.merge budget none content = some value
  encode_inj : ∀ {value other : α} {content : List UInt8},
    arm.encode? value = some content → arm.encode? other = some content →
    value = other

/-- The arm of a faithful layout. -/
theorem Arm.Lawful.of {number : Nat} {inner : Layout β} {wrap : β → α}
    {unwrap? : α → Option β} (faithful : inner.Faithful depth)
    (wrap_unwrap : ∀ a b, unwrap? a = some b → wrap b = a) :
    (Arm.of number inner wrap unwrap?).Lawful (depth + 1) where
  restores {budget value content} deep h fits := by
    obtain ⟨b, hb, rfl⟩ := Option.map_eq_some_iff.1 h
    show (inner.mergeNested budget inner.empty (inner.encode b)).map wrap = _
    rw [faithful.mergeNested_encode deep fits, Option.map_some,
      wrap_unwrap _ _ hb]
  encode_inj {value other content} h h' := by
    obtain ⟨b, hb, rfl⟩ := Option.map_eq_some_iff.1 h
    obtain ⟨b', hb', hcontent⟩ := Option.map_eq_some_iff.1 h'
    rw [← wrap_unwrap _ _ hb, ← wrap_unwrap _ _ hb',
      faithful.encode_inj hcontent]

/-- Of arms with different numbers, the one of a number is found by it. -/
private theorem find?_number {arms : List (Arm α)} {arm : Arm α}
    (distinct : (arms.map Arm.number).Nodup) (h : arm ∈ arms) :
    arms.find? (fun a => a.number == arm.number) = some arm := by
  induction arms with
  | nil => cases h
  | cons a arms ih =>
      obtain ⟨hhead, htail⟩ := List.nodup_cons.1 distinct
      rcases List.mem_cons.1 h with rfl | h
      · simp
      · have hne : a.number ≠ arm.number := fun heq =>
          hhead (heq ▸ List.mem_map_of_mem h)
        rw [List.find?_cons_of_neg (by simpa using hne), ih htail h]

/-- The field of a value is that of the first arm that has bytes for it. -/
private theorem write_choice {arms : List (Arm α)} {value : α}
    (covered : (arms.findSome? fun arm => arm.encode? value).isSome) :
    ∃ arm ∈ arms, ∃ content, arm.encode? value = some content
      ∧ (choice arms).write (some value)
        = [⟨arm.number, .bytes content⟩] := by
  induction arms with
  | nil => cases covered
  | cons arm arms ih =>
      cases h : arm.encode? value with
      | some content =>
          refine ⟨arm, List.mem_cons_self .., content, h, ?_⟩
          simp [choice, h]
      | none =>
          rw [List.findSome?_cons, h] at covered
          obtain ⟨arm', harm', content, hcontent, hwrite⟩ := ih covered
          refine ⟨arm', List.mem_cons_of_mem _ harm', content, hcontent, ?_⟩
          rw [← hwrite]
          simp [choice, h]

/-- A choice is lawful if its arms are and each value belongs to one. -/
theorem Lawful.choice {arms : List (Arm α)}
    (lawful : ∀ arm ∈ arms, arm.Lawful depth)
    (covers : ∀ value, (arms.findSome? fun arm => arm.encode? value).isSome) :
    (Layout.choice arms).Lawful (arms.map Arm.number) depth := by
  refine lawful_of_carries ?_ ?_ ?_
  · intro budget value field h
    have hnone : arms.find? (fun arm => arm.number == field.number) = none := by
      rw [List.find?_eq_none]
      intro arm harm heq
      exact h (List.mem_map.2 ⟨arm, harm, eq_of_beq heq⟩)
    simp only [Layout.choice, hnone]
  · intro value
    cases value with
    | none => exact .inl ⟨rfl, rfl⟩
    | some value =>
        obtain ⟨arm, harm, content, hcontent, hfield⟩ :=
          write_choice (covers value)
        refine .inr ⟨_, hfield, trivial, List.mem_map_of_mem harm, ?_⟩
        intro budget distinct deep fits
        -- the content is a part of the bytes, so it is counted by 64 bits too
        have hfits : content.length < UInt64.size := by
          simp only [Field.write, List.length_append] at fits
          omega
        simp only [Layout.choice, find?_number distinct harm]
        rw [(lawful arm harm).restores deep hcontent hfits, Option.map_some]
  · intro value other field distinct h h'
    cases value with
    | none => cases h
    | some value =>
        cases other with
        | none => cases h'
        | some other =>
            obtain ⟨arm, harm, content, hcontent, hfield⟩ :=
              write_choice (covers value)
            obtain ⟨arm', harm', content', hcontent', hfield'⟩ :=
              write_choice (covers other)
            rw [hfield, List.singleton_inj] at h
            rw [hfield', List.singleton_inj, ← h] at h'
            obtain ⟨hnumber, hbytes⟩ := Field.mk.inj h'
            -- one number has one arm, and an arm writes no two values alike
            have hsame : some arm' = some arm := by
              rw [← find?_number distinct harm', hnumber,
                find?_number distinct harm]
            cases hsame
            cases hbytes
            rw [(lawful arm harm).encode_inj hcontent hcontent']

end FiatAccounts.Wire.Layout

/-
How many bytes a value takes on the wire, at most.

A layout is put together from fields, so the bytes of a value add up, and a
nested message is the content of a field once more (`Layout.FitsIn`). Around its
content a field has a key and a length. Both are short if numbers and contents
are small: no number here exceeds thirty, and no content is so long that its
length would take a fifth byte. The numbers of a message are looked at all at
once, and the size once for the whole of it.

A text that has passed a check of its length has at most as many characters as
the check allows, of four bytes at most. For the other texts the bytes are
counted as they are (`room`).
-/
import FiatAccounts.Proofs.Check.Passed
import FiatAccounts.Proofs.Text.Ascii
import FiatAccounts.Proofs.Wire.Lawful

namespace FiatAccounts.Wire

-- ============================================================== fields

/-- The bytes of the field around a content: two for the key and four for the
length. -/
theorem Field.length_write_bytes_le {number : Nat} {content : List UInt8}
    (hnumber : number < 31) (hcontent : content.length < 4194304) :
    (Field.write ⟨number, .bytes content⟩).length ≤ content.length + 6 := by
  have hcode : Kind.bytes.code = 2 := rfl
  have hkey : (Key.write ⟨number, .bytes⟩).length ≤ 1 + 1 := by
    refine Varint.length_write_le ?_
    show 8 * number + Kind.bytes.code < 256
    omega
  have hlength : (Varint.write content.length).length ≤ 3 + 1 :=
    Varint.length_write_le hcontent
  unfold Field.write
  simp only [List.length_append]
  omega

/-- The bytes of texts that are written one field each. -/
def room : List String → Nat
  | [] => 0
  | text :: texts => text.utf8ByteSize + 6 + room texts

theorem room_cons (text : String) (texts : List String) :
    room (text :: texts) = text.utf8ByteSize + 6 + room texts := rfl

-- ============================================================= layouts

namespace Layout

variable {α β : Type} {layout : Layout α} {value : α} {number m n : Nat}
  {numbers : List Nat}

/-- The value is written in that many bytes or fewer, if these numbers are small
and the bytes fewer than four megabytes. -/
def FitsIn (layout : Layout α) (numbers : List Nat) (value : α) (n : Nat) :
    Prop :=
  (∀ number ∈ numbers, number < 31) → n < 4194304 →
    (layout.encode value).length ≤ n

/-- A field takes no less room than its content. -/
theorem le_length_encode {content : List UInt8}
    (h : layout.write value = [⟨number, .bytes content⟩]) :
    content.length ≤ (layout.encode value).length := by
  unfold Layout.encode
  rw [h, writeAll_cons, List.length_append]
  unfold Field.write
  simp only [List.length_append]
  omega

/-- A choice writes the number of one of its arms. -/
theorem number_mem_of_write_choice {arms : List (Arm α)} {field : Field}
    (h : (Layout.choice arms).write (some value) = [field]) :
    field.number ∈ arms.map Arm.number := by
  obtain ⟨arm, harm, hfield⟩ :=
    List.exists_of_findSome?_eq_some (Option.toList_eq_singleton_iff.1 h)
  obtain ⟨content, -, rfl⟩ := Option.map_eq_some_iff.1 hfield
  exact List.mem_map_of_mem harm

namespace FitsIn

theorem mono (h : layout.FitsIn numbers value m) (hle : m ≤ n) :
    layout.FitsIn numbers value n :=
  fun small few => Nat.le_trans (h small (Nat.lt_of_le_of_lt hle few)) hle

/-- What is not written takes no bytes. -/
theorem of_omitted (h : layout.write value = []) :
    layout.FitsIn numbers value n := by
  intro small few
  unfold Layout.encode
  rw [h]
  exact Nat.zero_le n

/-- What is written as one field. -/
theorem of_field {content : List UInt8}
    (h : layout.write value = [⟨number, .bytes content⟩])
    (hnumber : number ∈ numbers)
    (hcontent : n < 4194304 → content.length ≤ n) :
    layout.FitsIn numbers value (n + 6) := by
  intro small few
  have hlength : content.length ≤ n := hcontent (by omega)
  have hfield := Field.length_write_bytes_le (small number hnumber)
    (show content.length < 4194304 by omega)
  unfold Layout.encode
  rw [h, writeAll_cons, List.length_append]
  exact Nat.le_trans hfield (Nat.add_le_add_right hlength 6)

/-- A text of known size is one field or none. -/
theorem text {value : String} (h : value.utf8ByteSize ≤ n) :
    (Layout.text number).FitsIn [number] value (n + 6) := by
  by_cases hempty : value = ""
  · exact of_omitted (if_pos hempty)
  · exact of_field (if_neg hempty) (List.mem_singleton_self _) fun _ => h

/-- A text that may be absent is one field where it is there. -/
theorem optionalText {value : Option String}
    (h : ∀ text ∈ value, text.utf8ByteSize ≤ n) :
    (Layout.optionalText number).FitsIn [number] value (n + 6) := by
  cases value with
  | none => exact of_omitted rfl
  | some text =>
      exact of_field rfl (List.mem_singleton_self _) fun _ => h text rfl

/-- A run of bytes is one field or none. -/
theorem blob {value : List UInt8} (h : value.length ≤ n) :
    (Layout.blob number).FitsIn [number] value (n + 6) := by
  by_cases hempty : value = []
  · exact of_omitted (if_pos hempty)
  · exact of_field (if_neg hempty) (List.mem_singleton_self _) fun _ => h

/-- A text as it is. -/
theorem counted {value : String} :
    (Layout.text number).FitsIn [number] value (room [value]) :=
  text (Nat.le_refl _)

/-- A list of texts as they are, by induction on the list. -/
theorem texts {values : List String} :
    (Layout.texts number).FitsIn [number] values (room values) := by
  intro small few
  have hnumber := small number (List.mem_singleton_self _)
  unfold Layout.encode
  induction values with
  | nil => exact Nat.le_refl 0
  | cons value values ih =>
      rw [room_cons] at few ⊢
      have hvalue : (Field.write
          ⟨number, .bytes (Text.Utf8.encode value)⟩).length
            ≤ value.utf8ByteSize + 6 :=
        Field.length_write_bytes_le hnumber
          (show value.utf8ByteSize < 4194304 by omega)
      show (writeAll (_ :: (Layout.texts number).write values)).length ≤ _
      rw [writeAll_cons, List.length_append]
      exact Nat.add_le_add hvalue (ih (by omega))

-- ------------------------------------------------------------- checked

section

variable {field : String} {min max : Nat}

/-- A text of a checked length, of which no character takes more than four
bytes. -/
theorem required {value : String}
    (h : Check.requiredText field value min max = .ok ()) :
    (Layout.text number).FitsIn [number] value (4 * max + 6) := by
  have hlength := (Check.requiredText_eq_ok.1 h).2.2
  have hsize := Text.Utf8.length_encode_le value
  rw [Text.Utf8.length_encode] at hsize
  exact text (by omega)

theorem optional {value : Option String}
    (h : Check.optionalText field value min max = .ok ()) :
    (Layout.optionalText number).FitsIn [number] value (4 * max + 6) := by
  refine optionalText fun text htext => ?_
  have hlength := (Check.optionalText_eq_ok.1 h text htext).2.2
  have hsize := Text.Utf8.length_encode_le text
  rw [Text.Utf8.length_encode] at hsize
  omega

/-- An e-mail address is a text of checked length. -/
theorem email {value : String} (h : Check.email field value = .ok ()) :
    (Layout.text number).FitsIn [number] value (4 * 100 + 6) :=
  required (bind_unit_eq_ok.1 h).1

end

-- -------------------------------------------------------- combinations

/-- Side by side, the room adds up. -/
theorem both {first : Layout α} {second : Layout β} {a : α} {b : β}
    {numbers' : List Nat} (h : first.FitsIn numbers a m)
    (h' : second.FitsIn numbers' b n) :
    (Layout.both first second).FitsIn (numbers ++ numbers') (a, b) (m + n) := by
  intro small few
  obtain ⟨hsmall, hsmall'⟩ := List.forall_mem_append.1 small
  have hfirst := h hsmall (by omega)
  have hsecond := h' hsmall' (by omega)
  rw [encode_both, List.length_append]
  exact Nat.add_le_add hfirst hsecond

/-- A whole message, of which no number is left to look at. -/
theorem whole (small : ∀ number ∈ numbers, number < 31)
    (h : layout.FitsIn numbers value m) (hle : m ≤ n) :
    layout.FitsIn [] value n :=
  fun _ few => h.mono hle small few

/-- A whole message, seen as the parts of a structure. -/
theorem reshape {layout : Layout α} {forth : α → β} {back : β → α} {value : β}
    (small : ∀ number ∈ numbers, number < 31)
    (h : layout.FitsIn numbers (back value) m) (hle : m ≤ n) :
    (layout.reshape forth back).FitsIn [] value n :=
  h.whole small hle

theorem nothing : Layout.nothing.FitsIn [] () n :=
  of_omitted rfl

/-- The alternative that a choice made. -/
theorem choice {arms : List (Arm α)} {inner : Layout β} {content : β}
    (hwrite : (Layout.choice arms).write (some value)
      = [⟨number, .bytes (inner.encode content)⟩])
    (h : inner.FitsIn [] content n) :
    (Layout.choice arms).FitsIn (arms.map Arm.number) (some value) (n + 6) :=
  of_field hwrite (number_mem_of_write_choice hwrite)
    (h (List.forall_mem_nil _))

end FitsIn

end Layout

end FiatAccounts.Wire

/-
When the order of the fields makes no difference.

A layout reads its own numbers only, so it is enough to look at the fields of
these numbers, in the order in which they come. Where each of them comes once,
that order does not matter either (`Unordered`): side by side, every layout
finds its one field wherever it stands. A list of texts is different, its
entries come back in the order of the fields, so its layout is lawful but not
unordered.

It follows that the bytes of an unordered message can be spelled anew, with the
fields in any order and with any fields of other numbers in between
(`Extends`), and are still the bytes of the same value.
-/
import FiatAccounts.Proofs.Wire.Lawful

namespace FiatAccounts.Wire

/-- The fields of the message in any order, in any spelling, and among them
fields of numbers that are not declared. -/
def Extends (declared : List Nat) (message bytes : List UInt8) : Prop :=
  ∃ own unknown fields : List Field,
    Spells message own ∧ (∀ field ∈ unknown, field.number ∉ declared)
      ∧ fields.Perm (own ++ unknown) ∧ Spells bytes fields

/-- Whatever the order, the fields can be written in it. -/
theorem extends_writeAll {declared : List Nat} {own unknown fields : List Field}
    (framed : ∀ field ∈ fields, field.Framed)
    (fits : (writeAll fields).length < UInt64.size)
    (hunknown : ∀ field ∈ unknown, field.number ∉ declared)
    (hperm : fields.Perm (own ++ unknown)) :
    Extends declared (writeAll own) (writeAll fields) := by
  have hlength : (writeAll fields).length
      = (writeAll own).length + (writeAll unknown).length := by
    rw [← List.length_append, ← writeAll_append]
    exact (hperm.flatMap_right Field.write).length_eq
  have hown : Spells (writeAll own) own := by
    refine spells_writeAll (fun field h => framed field ?_) (by omega)
    exact hperm.mem_iff.2 (List.mem_append_left _ h)
  exact ⟨own, unknown, fields, hown, hunknown, hperm,
    spells_writeAll framed fits⟩

namespace Layout

variable {α β : Type} {numbers others : List Nat} {depth : Nat}

-- ============================================================= the law

/-- The laws of the fields, and a value is found again wherever its fields are
the only ones of their numbers. -/
structure Unordered (layout : Layout α) (numbers : List Nat) (depth : Nat) :
    Prop extends layout.Lawful numbers depth where
  gathers : ∀ {budget : Nat} {value : α} {fields : List Field},
    numbers.Nodup → depth ≤ budget →
    (layout.encode value).length < UInt64.size →
    (fields.filter fun field => field.number ∈ numbers).Perm
      (layout.write value) →
    fields.foldlM (layout.merge budget) layout.empty = some value

/-- One field at most has no order. -/
theorem Unordered.of_single {layout : Layout α}
    (lawful : layout.Lawful numbers depth) (single : layout.Single) :
    layout.Unordered numbers depth where
  toLawful := lawful
  gathers {budget value fields} distinct deep fits hfields := by
    have hsame : (fields.filter fun field => field.number ∈ numbers)
        = layout.write value := by
      have hlength := single value
      cases hwrite : layout.write value with
      | nil =>
          rw [hwrite] at hfields
          exact hfields.eq_nil
      | cons field rest =>
          rw [hwrite, List.length_cons] at hlength
          have hrest : rest = [] :=
            List.eq_nil_of_length_eq_zero (by omega)
          rw [hwrite, hrest] at hfields
          rw [hrest]
          exact List.perm_singleton.1 hfields
    rw [← lawful.foldlM_filter, hsame]
    exact lawful.restores distinct deep fits

-- ============================================================== shapes

section Fields

variable {number : Nat}

theorem Unordered.text : (Layout.text number).Unordered [number] depth :=
  .of_single .text .text

theorem Unordered.blob : (Layout.blob number).Unordered [number] depth :=
  .of_single .blob .blob

theorem Unordered.millis : (Layout.millis number).Unordered [number] depth :=
  .of_single .millis .millis

/-- A nested message is one field, in the order of whose own fields nothing is
said. -/
theorem Unordered.message {inner : Layout α} (faithful : inner.Faithful depth) :
    (Layout.message number inner).Unordered [number] (depth + 1) :=
  .of_single (.message faithful) .message

/-- A choice is one field, of the arm that was taken. -/
theorem Unordered.choice {arms : List (Arm α)}
    (lawful : ∀ arm ∈ arms, arm.Lawful depth)
    (covers : ∀ value, (arms.findSome? fun arm => arm.encode? value).isSome) :
    (Layout.choice arms).Unordered (arms.map Arm.number) depth :=
  .of_single (.choice lawful covers) .choice

end Fields

/-- What agrees on some numbers agrees on fewer. -/
private theorem perm_of_subset {few many : List Nat}
    {fields written : List Field} (hsubset : few ⊆ many)
    (h : (fields.filter fun field => field.number ∈ many).Perm written) :
    (fields.filter fun field => field.number ∈ few).Perm
      (written.filter fun field => field.number ∈ few) := by
  have hperm := h.filter fun field => field.number ∈ few
  rw [List.filter_filter] at hperm
  have hboth : ∀ field ∈ fields,
      (decide (field.number ∈ few) && decide (field.number ∈ many))
        = decide (field.number ∈ few) := by
    intro field _
    rw [← Bool.decide_and, decide_eq_decide]
    exact and_iff_left_of_imp fun hfew => hsubset hfew
  rwa [List.filter_congr hboth] at hperm

/-- The fields of two layouts can be mixed. -/
theorem Unordered.both {first : Layout α} {second : Layout β}
    (hfirst : first.Unordered numbers depth)
    (hsecond : second.Unordered others depth) :
    (Layout.both first second).Unordered (numbers ++ others) depth where
  toLawful := .both hfirst.toLawful hsecond.toLawful
  gathers := by
    intro budget (a, b) fields distinct deep fits hfields
    have hown := filter_both_first hfirst.toLawful hsecond.toLawful distinct a b
    have hown' :=
      filter_both_second hfirst.toLawful hsecond.toLawful distinct a b
    rw [encode_both, List.length_append] at fits
    obtain ⟨distinct, distinct', -⟩ := List.nodup_append.1 distinct
    refine foldlM_both (hfirst.gathers distinct deep (by omega) ?_)
      (hsecond.gathers distinct' deep (by omega) ?_)
    · rw [← hown]
      exact perm_of_subset (List.subset_append_left numbers others) hfields
    · rw [← hown']
      exact perm_of_subset (List.subset_append_right numbers others) hfields

/-- The same fields for another type of the same values. -/
theorem Unordered.reshape {layout : Layout α}
    (unordered : layout.Unordered numbers depth) {forth : α → β} {back : β → α}
    (back_forth : ∀ a, back (forth a) = a)
    (forth_back : ∀ b, forth (back b) = b) :
    (layout.reshape forth back).Unordered numbers depth where
  toLawful := unordered.toLawful.reshape back_forth forth_back
  gathers {budget value fields} distinct deep fits hfields := by
    show fields.foldlM _ (forth layout.empty) = _
    rw [foldlM_reshape back_forth,
      unordered.gathers distinct deep fits hfields, Option.map_some, forth_back]

-- ======================================================= whole messages

/-- Bytes that extend those of a value decode to it. -/
theorem Unordered.decode?_of_extends {layout : Layout α}
    (unordered : layout.Unordered numbers depth) (usable : Usable numbers)
    (deep : depth ≤ depthLimit) {value : α} {bytes : List UInt8}
    (fits : (layout.encode value).length < UInt64.size)
    (h : Extends numbers (layout.encode value) bytes) :
    layout.decode? bytes = some value := by
  obtain ⟨own, unknown, fields, hown, hunknown, hperm, hfields⟩ := h
  have framed : ∀ field ∈ layout.write value, field.Framed :=
    unordered.framed_of_usable usable
  have hwrite : own = layout.write value :=
    hown.unique (spells_writeAll framed fits)
  unfold decode? mergeAll
  rw [hfields.readAll]
  refine unordered.gathers usable.1 deep fits ?_
  have hfilter := hperm.filter fun field => field.number ∈ numbers
  rw [List.filter_append, hwrite, unordered.filter_own, filter_eq_nil hunknown,
    List.append_nil] at hfilter
  exact hfilter

end Layout

end FiatAccounts.Wire

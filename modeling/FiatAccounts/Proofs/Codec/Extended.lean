/-
Bytes of later versions.

A later version may declare fields that this one does not know, and nothing
prescribes the order in which fields are written. Both make no difference: a
payload's or an account's message has each of its fields once, so it is found
again in any order, and fields of other numbers are stepped over
(`Message.Payload.layout_unordered`).

This holds of the fields of the message itself. Inside a nested message the
entries of a list keep their order.
-/
import FiatAccounts.Proofs.Codec.RoundTrip

namespace FiatAccounts

open Wire Wire.Layout

/-- The top-level fields of a payload's or an account's bytes, in any order and
with any number of well-formed fields of undeclared numbers among them, are
decoded as the same payload or account. Every payload in existence is verified;
the bounds hold of all bytes that a memory can hold. -/
theorem decode_of_extends (p : Payload Instrument) (a : PaymentAccount)
    (verified : p.verify = .ok ()) (verified' : a.payload.verify = .ok ())
    (fits : (encodePayload p .wire).length < UInt64.size)
    (fits' : (encodeAccount a .wire).length < UInt64.size) :
    (∀ bytes, Extends Message.Payload.numbers (encodePayload p .wire) bytes →
        decodePayload bytes = .ok p)
      ∧ ∀ bytes, Extends Message.Account.numbers (encodeAccount a .wire) bytes →
        decodeAccount bytes = .ok a := by
  constructor
  · intro bytes h
    have unordered := @Message.Payload.layout_unordered 0
    exact decodePayload_of_message verified
      (unordered.decode?_of_extends (by decide) (by decide) fits h)
  · intro bytes h
    have unordered := @Message.Account.layout_unordered 0
    exact decodeAccount_of_message verified'
      (unordered.decode?_of_extends (by decide) (by decide) fits' h)

/-- A payload from the last field to the first, behind a zero of two bytes in an
unknown field, and an account between two unknown fields. -/
theorem decode_of_extends_sample :
    decodePayload ([72, 128, 0]
        ++ writeAll
          (Message.Payload.layout.write Payload.sample.toMessage).reverse)
        = .ok .sample
      ∧ decodeAccount (writeAll
        (⟨6, .fixed32 [1, 2, 3, 4]⟩
          :: Message.Account.layout.write PaymentAccount.sample.toMessage
          ++ [⟨31, .bytes [255]⟩]))
        = .ok .sample := by
  have h := decode_of_extends .sample .sample rfl rfl (by decide +kernel)
    (by decide +kernel)
  refine ⟨h.1 _ ?_, h.2 _ ?_⟩
  · have lawful := @Message.Payload.layout_lawful 0
    have framed : ∀ field
        ∈ Message.Payload.layout.write Payload.sample.toMessage, field.Framed :=
      lawful.framed_of_usable (by decide)
    have hkey : Key.Spells [72] ⟨9, .varint⟩ :=
      ⟨⟨.last (by decide), by decide, by decide⟩, by decide, by decide⟩
    have hzero : Varint.Spells [128, 0] 0 :=
      ⟨.more (by decide) (.last (by decide)), by decide, by decide⟩
    refine ⟨_, [⟨9, .varint 0⟩], ⟨9, .varint 0⟩ :: _,
      spells_writeAll framed (by decide +kernel), by decide, ?_,
      .cons (.intro hkey (.varint hzero))
        (spells_writeAll ?_ (by decide +kernel))⟩
    · exact ((List.reverse_perm _).cons _).trans
        (List.perm_append_singleton _ _).symm
    · intro field hfield
      exact framed field (List.mem_reverse.1 hfield)
  · have lawful := @Message.Account.layout_lawful 0
    have framed : ∀ field
        ∈ Message.Account.layout.write PaymentAccount.sample.toMessage,
        field.Framed :=
      lawful.framed_of_usable (by decide)
    have hunknown : ∀ field ∈
        ([⟨6, .fixed32 [1, 2, 3, 4]⟩, ⟨31, .bytes [255]⟩] : List Field),
        field.number ∉ Message.Account.numbers := by decide
    refine extends_writeAll ?_ (by decide +kernel) hunknown
      List.perm_middle.symm
    simp only [List.forall_mem_append, List.forall_mem_cons]
    exact ⟨⟨⟨by decide, by decide, rfl⟩, framed⟩,
      ⟨by decide, by decide, trivial⟩, List.forall_mem_nil _⟩

end FiatAccounts

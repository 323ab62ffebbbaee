/-
No part of a payload's or an account's bytes is taken for the whole.

Inside a field a cut leaves bytes that are no message. Between two fields it
leaves a message, so what refuses it there is not the wire format: the choice
has the highest numbers and is written last, so it is always cut off
(`Message.Payload.layout_cuts`), and without it no message is a payload or an
account.
-/
import FiatAccounts.Proofs.Account.Refusal
import FiatAccounts.Proofs.Wire.Truncation

namespace FiatAccounts

open Wire Wire.Layout

-- ============================================================ messages

namespace Message

/-- What is cut off a payload's message between fields takes the choice along.
-/
theorem Payload.layout_cuts : Payload.layout.Cuts fun m => m.arm = none :=
  .reshape (.both .text <| .both .blob <| .choice) fun _ => rfl

/-- An account's message loses its choice first too. -/
theorem Account.layout_cuts : Account.layout.Cuts fun m => m.arm = none :=
  .reshape
    (.both .text <| .both .millis <| .both .text <| .both .message <|
      .both .message <| .choice)
    fun _ => rfl

end Message

-- ============================================================ payloads

section

variable {bytes : List UInt8}

/-- Cut between fields, the bytes of a payload are a message with an open
choice. Cut inside a field they are no message. -/
theorem decodePayload_of_cut {m : Message.Payload}
    (fits : bytes.length < UInt64.size)
    (h : Cut bytes (Message.Payload.layout.encode m)) :
    (CutBetween bytes (Message.Payload.layout.encode m)
        → decodePayload bytes
          = .error (.unresolvableVariant "payload" "no variant set"))
      ∧ (¬CutBetween bytes (Message.Payload.layout.encode m)
        → decodePayload bytes = .error (.decode .malformed)) := by
  have lawful := @Message.Payload.layout_lawful 0
  obtain ⟨hbetween, hinside⟩ := lawful.decode?_of_cut (by decide) (by decide)
    Message.Payload.layout_cuts fits h
  unfold decodePayload
  constructor
  · intro hcut
    -- what is left is a message that has lost its choice
    obtain ⟨rest, hopen, hrest⟩ := hbetween hcut
    rw [hrest]
    refine Payload.ofMessage_of_open ?_
    rw [Message.Payload.openLevel?, hopen]
  · intro hcut
    rw [hinside hcut]

-- ============================================================ accounts

/-- The bytes of an account are refused for the same two reasons. -/
theorem decodeAccount_of_cut {m : Message.Account}
    (fits : bytes.length < UInt64.size)
    (h : Cut bytes (Message.Account.layout.encode m)) :
    (CutBetween bytes (Message.Account.layout.encode m)
        → decodeAccount bytes
          = .error (.unresolvableVariant "account" "no variant set"))
      ∧ (¬CutBetween bytes (Message.Account.layout.encode m)
        → decodeAccount bytes = .error (.decode .malformed)) := by
  have lawful := @Message.Account.layout_lawful 0
  obtain ⟨hbetween, hinside⟩ := lawful.decode?_of_cut (by decide) (by decide)
    Message.Account.layout_cuts fits h
  unfold decodeAccount
  constructor
  · intro hcut
    obtain ⟨rest, hopen, hrest⟩ := hbetween hcut
    rw [hrest]
    refine PaymentAccount.ofMessage_eq_error.2 (.openChoice ?_)
    rw [Message.Account.openLevel?, hopen]
  · intro hcut
    rw [hinside hcut]

end

/-- The account's bytes are those of a message with a choice, in either form. -/
theorem encodeAccount_eq (a : PaymentAccount) (form : Form) :
    ∃ m : Message.Account, encodeAccount a form
        = Message.Account.layout.encode m
      ∧ m.arm ≠ none := by
  cases form with
  | wire => exact ⟨_, rfl, Option.some_ne_none _⟩
  | canonical => exact ⟨_, rfl, Option.some_ne_none _⟩

/-- Bytes of a payload or an account that have lost something at their end are
refused, and the error says where they were cut: between two fields (or in front
of all of them), or inside a field. `fits` holds of all bytes that a memory can
hold. -/
theorem refused_of_cut (p : Payload Instrument) (a : PaymentAccount)
    (form : Form) (bytes : List UInt8) (fits : bytes.length < UInt64.size) :
    (Cut bytes (encodePayload p form) →
        (CutBetween bytes (encodePayload p form)
            → decodePayload bytes
              = .error (.unresolvableVariant "payload" "no variant set"))
          ∧ (¬CutBetween bytes (encodePayload p form)
            → decodePayload bytes = .error (.decode .malformed)))
      ∧ (Cut bytes (encodeAccount a form) →
        (CutBetween bytes (encodeAccount a form)
            → decodeAccount bytes
              = .error (.unresolvableVariant "account" "no variant set"))
          ∧ (¬CutBetween bytes (encodeAccount a form)
            → decodeAccount bytes = .error (.decode .malformed)))
      ∧ CutBetween [] (encodePayload p form)
      ∧ CutBetween [] (encodeAccount a form) := by
  obtain ⟨m, hbytes, harm⟩ := encodeAccount_eq a form
  rw [hbytes, encodePayload_eq]
  refine ⟨decodePayload_of_cut fits, decodeAccount_of_cut fits, ?_, ?_⟩
  · have lawful := @Message.Payload.layout_lawful 0
    exact lawful.cutBetween_nil (by decide) Message.Payload.layout_cuts
      (Option.some_ne_none _)
  · have lawful := @Message.Account.layout_lawful 0
    exact lawful.cutBetween_nil (by decide) Message.Account.layout_cuts harm

/-- A payload that has lost all of its bytes is cut between fields, and an
account that has lost its last byte is cut inside one. -/
theorem refused_of_cut_sample :
    decodePayload [] = .error (.unresolvableVariant "payload" "no variant set")
      ∧ decodeAccount (encodeAccount .sample .canonical).dropLast
        = .error (.decode .malformed) := by
  have hnone := refused_of_cut .sample .sample .canonical [] (by decide)
  have hlast := refused_of_cut .sample .sample .canonical
    (encodeAccount .sample .canonical).dropLast (by decide +kernel)
  refine ⟨(hnone.1 ⟨List.nil_prefix, by decide +kernel⟩).1 hnone.2.2.1,
    (hlast.2.1 ⟨List.dropLast_prefix _, by decide +kernel⟩).2 ?_⟩
  intro hbetween
  have hread := hbetween.isSome_readAll (by decide +kernel) 0
  revert hread
  decide +kernel

end FiatAccounts

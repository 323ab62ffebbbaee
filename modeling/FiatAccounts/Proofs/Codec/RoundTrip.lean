/-
What is encoded is what is decoded, and the other way round.

Two halves meet here. On the side of the bytes a message is found again in what
was written of it (`Message.Account.decode?_encode`). On the side of the
messages a verified payload or account is found again in its message, and a
message that is accepted is the message of what it was accepted as
(`PaymentAccount.ofMessage_eq_ok`).

The bytes of one message have to be counted by 64 bits, or no reader takes their
length. Bytes in a memory always are.
-/
import FiatAccounts.Codec
import FiatAccounts.Proofs.Account.Message
import FiatAccounts.Proofs.Message.Faithful

namespace FiatAccounts

-- ============================================================ payloads

/-- The form makes no difference to a payload. -/
theorem encodePayload_eq (p : Payload Instrument) (form : Form) :
    encodePayload p form = Message.Payload.layout.encode p.toMessage := by
  cases form <;> rfl

/-- Bytes that carry the message of a verified payload decode to it. -/
theorem decodePayload_of_message {p : Payload Instrument} {bytes : List UInt8}
    (verified : p.verify = .ok ())
    (h : Message.Payload.layout.decode? bytes = some p.toMessage) :
    decodePayload bytes = .ok p := by
  unfold decodePayload
  rw [h]
  exact Payload.ofMessage_eq_ok.2 ⟨rfl, verified⟩

/-- Every verified payload is decoded from its bytes, in either form, the same
in all fields and on all levels. `fits` holds of all bytes that a memory can
hold: it counts them by 64 bits. -/
theorem decodePayload_encodePayload (p : Payload Instrument) (form : Form)
    (verified : p.verify = .ok ())
    (fits : (encodePayload p form).length < UInt64.size) :
    decodePayload (encodePayload p form) = .ok p := by
  rw [encodePayload_eq] at fits ⊢
  unfold decodePayload
  rw [Message.Payload.decode?_encode fits]
  exact Payload.ofMessage_eq_ok.2 ⟨rfl, verified⟩

/-- A payload two levels down, with fields that are there and fields that are
not. -/
def Payload.sample : Payload Instrument where
  id := "ach-1"
  salt := [7, 0, 255]
  instrument := .countryBased <| .bank <| .achTransfer <|
    UsTransfer.ofHolder "Ada Moss" none "First Bank" "011000015" "12345678"
      (some .checking)

/-- A transfer of the United States, in both forms. -/
theorem decodePayload_encodePayload_sample :
    Payload.sample.verify = .ok ()
      ∧ decodePayload (encodePayload Payload.sample .wire)
        = .ok Payload.sample
      ∧ decodePayload (encodePayload Payload.sample .canonical)
        = .ok Payload.sample :=
  ⟨rfl, decodePayload_encodePayload _ _ rfl (by decide +kernel),
    decodePayload_encodePayload _ _ rfl (by decide +kernel)⟩

-- ============================================================ accounts

/-- The canonical form is what the wire form of the account without its secret
is. -/
theorem encodeAccount_canonical (a : PaymentAccount) :
    encodeAccount a .canonical = encodeAccount a.withoutPrivateKey .wire :=
  congrArg Message.Account.layout.encode a.toMessage_withoutPrivateKey.symm

/-- Bytes that carry the message of an account around a verified payload decode
to it. -/
theorem decodeAccount_of_message {a : PaymentAccount} {bytes : List UInt8}
    (verified : a.payload.verify = .ok ())
    (h : Message.Account.layout.decode? bytes = some a.toMessage) :
    decodeAccount bytes = .ok a := by
  unfold decodeAccount
  rw [h]
  exact PaymentAccount.ofMessage_eq_ok.2 ⟨rfl, verified⟩

/-- An account around a verified payload is decoded from its bytes, the secret
included. -/
theorem decodeAccount_wire {a : PaymentAccount}
    (verified : a.payload.verify = .ok ())
    (fits : (encodeAccount a .wire).length < UInt64.size) :
    decodeAccount (encodeAccount a .wire) = .ok a :=
  decodeAccount_of_message verified (Message.Account.decode?_encode fits)

/-- Every account around a verified payload is decoded from its bytes, and from
its canonical bytes with its record as it was but for the private key, which is
empty. -/
theorem decodeAccount_encodeAccount (a : PaymentAccount)
    (verified : a.payload.verify = .ok ())
    (fits : ∀ form, (encodeAccount a form).length < UInt64.size) :
    decodeAccount (encodeAccount a .wire) = .ok a
      ∧ decodeAccount (encodeAccount a .canonical) = .ok a.withoutPrivateKey
      ∧ a.withoutPrivateKey.record =
        { a.record with
          signing := a.record.signing.map fun s =>
            { s with privateKey := [] } } := by
  refine ⟨decodeAccount_wire verified (fits .wire), ?_,
    a.record_withoutPrivateKey⟩
  have fits := fits .canonical
  rw [encodeAccount_canonical] at fits ⊢
  rw [← a.payload_withoutPrivateKey] at verified
  exact decodeAccount_wire verified fits

/-- An account that signs. -/
def PaymentAccount.sample : PaymentAccount :=
  ofPayload "account-1" (-1) "" Payload.sample
    (some
      { publicKey := [4, 8]
        privateKey := [15, 16]
        algorithm := .ed25519
        origin := .legacyImport })

/-- An account with a private key comes back with it in one form and without it
in the other. -/
theorem decodeAccount_encodeAccount_sample :
    decodeAccount (encodeAccount .sample .wire) = .ok .sample
      ∧ decodeAccount (encodeAccount .sample .canonical)
        = .ok PaymentAccount.sample.withoutPrivateKey
      ∧ PaymentAccount.sample.withoutPrivateKey ≠ .sample := by
  have fits (form : Form) :
      (encodeAccount .sample form).length < UInt64.size := by
    cases form <;> decide +kernel
  have h := decodeAccount_encodeAccount .sample rfl fits
  exact ⟨h.1, h.2.1, by decide +kernel⟩

-- ============================================================ messages

/-- A message that is accepted is written again to the last field, what the
payload or the account does not hold among it, so no two messages are accepted
as the same thing. -/
theorem toMessage_of_accepted :
    (∀ m p, Payload.ofMessage m = .ok p → p.toMessage = m)
      ∧ (∀ m a, PaymentAccount.ofMessage m = .ok a → a.toMessage = m)
      ∧ (∀ m m' p, Payload.ofMessage m = .ok p → Payload.ofMessage m' = .ok p
          → m = m')
      ∧ (∀ m m' a, PaymentAccount.ofMessage m = .ok a
          → PaymentAccount.ofMessage m' = .ok a → m = m') := by
  refine ⟨fun m p h => (Payload.ofMessage_eq_ok.1 h).1,
    fun m a h => (PaymentAccount.ofMessage_eq_ok.1 h).1, ?_, ?_⟩
  · intro m m' p h h'
    rw [← (Payload.ofMessage_eq_ok.1 h).1, (Payload.ofMessage_eq_ok.1 h').1]
  · intro m m' a h h'
    rw [← (PaymentAccount.ofMessage_eq_ok.1 h).1,
      (PaymentAccount.ofMessage_eq_ok.1 h').1]

/-- The message of `PaymentAccount.sample` as it is sent. -/
def Message.Account.sample : Message.Account where
  id := "account-1"
  creationDate := -1
  name := ""
  payload := some
    { id := "ach-1"
      salt := [7, 0, 255]
      arm := some <| .countryBased
        { country := "US"
          arm := some <| .bank
            { holderName := some "Ada Moss"
              holderId := none
              bankName := some "First Bank"
              bankId := some "011000015"
              branchId := none
              accountNr := "12345678"
              accountType := some "CHECKING"
              nationalAccountId := none
              currency := "USD"
              arm := some (.achTransfer none) } } }
  signing := some
    { publicKey := [4, 8]
      privateKey := [15, 16]
      algorithm := "ED25519"
      origin := "LEGACY_IMPORT" }
  arm := some (.countryBased (some (.bank (some .achTransfer))))

/-- A message with every field set is written again as it was. -/
theorem toMessage_of_accepted_sample :
    PaymentAccount.ofMessage .sample = .ok .sample
      ∧ PaymentAccount.sample.toMessage = .sample :=
  ⟨rfl, toMessage_of_accepted.2.1 _ _ rfl⟩

end FiatAccounts

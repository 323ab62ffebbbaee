/-
What the canonical form shows of an account, and what it hides.

The canonical bytes are the bytes of the account without its secret. So they
hide the secret, because it is gone before anything is written, and they show
all the rest, because the bytes of a message determine it
(`Message.Account.encode_inj`). No rule has to hold of the payloads for this,
and no length has to be small: a reader is not needed to tell the bytes of two
accounts apart.

A hash of these bytes shows as much unless it collides.
-/
import FiatAccounts.Proofs.Codec.RoundTrip

namespace FiatAccounts

/-- The bytes of an account determine it. -/
theorem encodeAccount_wire_inj {a b : PaymentAccount}
    (h : encodeAccount a .wire = encodeAccount b .wire) : a = b :=
  PaymentAccount.toMessage_injective (Message.Account.encode_inj h)

/-- The bytes of a payload determine it in either form, since a payload has no
secret to lose. -/
theorem encodePayload_inj {p q : Payload Instrument} {form : Form}
    (h : encodePayload p form = encodePayload q form) : p = q := by
  rw [encodePayload_eq, encodePayload_eq] at h
  exact Payload.toMessage_injective (Message.Payload.encode_inj h)

/-- The canonical bytes of two accounts are the same exactly if what is left of
both without the secret is the same. -/
theorem encodeAccount_canonical_eq_iff {a b : PaymentAccount} :
    encodeAccount a .canonical = encodeAccount b .canonical
      ↔ a.withoutPrivateKey = b.withoutPrivateKey := by
  rw [encodeAccount_canonical, encodeAccount_canonical]
  exact ⟨encodeAccount_wire_inj, congrArg (encodeAccount · .wire)⟩

/-- Two messages with one hash. -/
def Hash.Sha256.Collide (x y : List UInt8) : Prop :=
  x ≠ y ∧ digest x = digest y

/-- The hashes of messages that do not collide tell them apart. -/
theorem Hash.Sha256.digest_eq_iff {x y : List UInt8} (h : ¬Collide x y) :
    digest x = digest y ↔ x = y := by
  refine ⟨?_, congrArg digest⟩
  intro hdigest
  by_cases heq : x = y
  · exact heq
  · exact absurd ⟨heq, hdigest⟩ h

/-- The canonical bytes of two accounts are the same exactly when the accounts
are, but for their private keys. Then the hashes are the same too, and only then
if they do not collide. The canonical bytes of payloads hide nothing. -/
theorem canonical_identifies (a b : PaymentAccount) (p q : Payload Instrument) :
    (encodeAccount a .canonical = encodeAccount b .canonical
        ↔ a.withoutPrivateKey = b.withoutPrivateKey)
      ∧ (a.withoutPrivateKey = b.withoutPrivateKey
        ↔ a.id = b.id ∧ a.creationDate = b.creationDate ∧ a.name = b.name
          ∧ a.payload = b.payload
          ∧ a.signing.map (fun s => (s.publicKey, s.algorithm, s.origin))
            = b.signing.map (fun s => (s.publicKey, s.algorithm, s.origin)))
      ∧ (a.withoutPrivateKey = b.withoutPrivateKey
          → a.contentHash = b.contentHash)
      ∧ (¬Hash.Sha256.Collide (encodeAccount a .canonical)
            (encodeAccount b .canonical)
          → a.withoutPrivateKey ≠ b.withoutPrivateKey
          → a.contentHash ≠ b.contentHash)
      ∧ (encodePayload p .canonical = encodePayload q .canonical ↔ p = q) := by
  refine ⟨encodeAccount_canonical_eq_iff,
    PaymentAccount.withoutPrivateKey_eq_iff, ?_, ?_, ?_⟩
  · intro h
    exact congrArg Hash.Sha256.digest (encodeAccount_canonical_eq_iff.2 h)
  · intro hcollide hne hhash
    refine hcollide ⟨?_, hhash⟩
    intro hbytes
    exact hne (encodeAccount_canonical_eq_iff.1 hbytes)
  · exact ⟨encodePayload_inj, congrArg (encodePayload · .canonical)⟩

/-- `PaymentAccount.sample` under a name. -/
def PaymentAccount.namedSample : PaymentAccount :=
  ofRecord { PaymentAccount.sample.record with name := "savings" }

/-- An account keeps its hash without its private key and changes it with its
name. -/
theorem canonical_identifies_sample :
    PaymentAccount.sample.withoutPrivateKey.contentHash
        = PaymentAccount.sample.contentHash
      ∧ PaymentAccount.sample.contentHash
        ≠ PaymentAccount.namedSample.contentHash := by
  have hsame := canonical_identifies PaymentAccount.sample.withoutPrivateKey
    .sample .sample .sample
  have hnamed := canonical_identifies .sample .namedSample .sample .sample
  refine ⟨hsame.2.2.1 (by decide +kernel), hnamed.2.2.2.1 ?_ ?_⟩
  · intro h
    obtain ⟨-, hhash⟩ := h
    revert hhash
    decide +kernel
  · decide +kernel

end FiatAccounts

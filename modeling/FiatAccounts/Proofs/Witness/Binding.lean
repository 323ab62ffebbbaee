/-
What the hash of a witness binds it to.

The hash is taken of the fingerprint, the salt and the key, one after the other
with nothing between them. The fingerprint is the part whose length is open, and
it stands first. So if the lengths of the other two are known, the parts are
found again from the end: the key, then the salt, and what is left is the
fingerprint (`committed_inj`).

If they are not known, nothing tells where the salt ends. Bytes that move from
the front of the key to the end of the salt leave the hash as it is
(`witnessHash_moved`).
-/
import FiatAccounts.Proofs.Codec.Canonical
import FiatAccounts.Proofs.Witness.Verify

namespace FiatAccounts

namespace Payload

variable {p q : Payload Instrument} {k l : List UInt8}

/-- The hashed bytes show the fingerprint, and the salt and the key if their
lengths are known. -/
theorem committed_inj (salts : p.salt.length = q.salt.length)
    (keys : k.length = l.length) :
    p.blindedInput ++ k = q.blindedInput ++ l
      ↔ p.fingerprint = q.fingerprint ∧ p.salt = q.salt ∧ k = l := by
  constructor
  · intro h
    obtain ⟨hinput, hkey⟩ := List.append_inj' h keys
    obtain ⟨hfingerprint, hsalt⟩ := List.append_inj' hinput salts
    exact ⟨hfingerprint, hsalt, hkey⟩
  · rintro ⟨hfingerprint, hsalt, rfl⟩
    unfold blindedInput witnessInput
    rw [hfingerprint, hsalt]

/-- Without the lengths the end of the salt cannot be told from the front of the
key. -/
theorem witnessHash_moved (p : Payload Instrument) (moved k : List UInt8) :
    ({ p with salt := p.salt ++ moved } : Payload Instrument).witnessHash k
      = p.witnessHash (moved ++ k) := by
  have hfingerprint :
      ({ p with salt := p.salt ++ moved } : Payload Instrument).fingerprint
        = p.fingerprint := rfl
  unfold witnessHash blindedInput witnessInput
  rw [hfingerprint]
  simp only [List.append_assoc]

end Payload

/-- The hashes of two payloads under two keys are the same exactly when the
fingerprints, the salts and the keys are, if salts and keys are as long as each
other and the hashed bytes do not collide. So a witness made for one payload and
key is accepted for no others, whatever the verifier and the clocks say. -/
theorem hash_binds (p q : Payload Instrument) (k l : List UInt8)
    (salts : p.salt.length = q.salt.length) (keys : k.length = l.length)
    (distinct :
      ¬Hash.Sha256.Collide (p.blindedInput ++ k) (q.blindedInput ++ l)) :
    (p.witnessHash k = q.witnessHash l
        ↔ p.fingerprint = q.fingerprint ∧ p.salt = q.salt ∧ k = l)
      ∧ (p.timestampHash k = q.timestampHash l
        ↔ p.fingerprint = q.fingerprint ∧ p.salt = q.salt ∧ k = l)
      ∧ ∀ (w : AgeWitness) (config : Config) (peerNow now : Millis)
          (signature : List UInt8) (algorithm : KeyAlgorithm)
          (verifier : Verifier),
        w.hash = p.witnessHash k →
        w.verify config q peerNow now l signature algorithm verifier = .ok () →
        p.fingerprint = q.fingerprint ∧ p.salt = q.salt ∧ k = l := by
  have hbinds : p.witnessHash k = q.witnessHash l
      ↔ p.fingerprint = q.fingerprint ∧ p.salt = q.salt ∧ k = l :=
    (Hash.Sha256.digest_eq_iff distinct).trans
      (Payload.committed_inj salts keys)
  -- A timestamp's hash is taken of the same bytes.
  refine ⟨hbinds, hbinds, ?_⟩
  intro w config peerNow now signature algorithm verifier hmade haccepted
  have hscreen := (AgeWitness.verify_eq_ok.1 haccepted).1
  have hshown := (AgeWitness.screen_eq_ok.1 hscreen).2.2
  exact hbinds.1 (hmade.symm.trans hshown)

/-- `Payload.sample` under another id. -/
def Payload.renamed : Payload Instrument :=
  { Payload.sample with id := "ach-2" }

/-- `Payload.sample` with another salt of the same length. -/
def Payload.resalted : Payload Instrument :=
  { Payload.sample with salt := [7, 0, 254] }

/-- A holder's name makes no difference to the hash. A salt does, and the
witness of one payload is not accepted for the other. -/
theorem hash_binds_sample :
    Payload.sample.witnessHash [4, 8] = Payload.renamed.witnessHash [4, 8]
      ∧ Payload.sample.timestampHash [4, 8]
        ≠ Payload.resalted.timestampHash [4, 8]
      ∧ ∀ signature verifier,
        (AgeWitness.latest [4, 8]).verify .standard .resalted Int64.maxValue
            Int64.maxValue [4, 8] signature .ed25519 verifier
          ≠ .ok () := by
  have hrenamed := hash_binds .sample .renamed [4, 8] [4, 8] rfl rfl
    fun hcollide => hcollide.1 rfl
  have hresalted := hash_binds .sample .resalted [4, 8] [4, 8] rfl rfl
    fun hcollide => absurd hcollide.2 (by decide +kernel)
  have hsalt : Payload.sample.salt ≠ Payload.resalted.salt := by decide
  refine ⟨hrenamed.1.2 ⟨rfl, rfl, rfl⟩, ?_, ?_⟩
  · intro hhash
    exact hsalt (hresalted.2.1.1 hhash).2.1
  · intro signature verifier haccepted
    exact hsalt (hresalted.2.2 _ _ _ _ _ _ _ rfl haccepted).2.1

end FiatAccounts

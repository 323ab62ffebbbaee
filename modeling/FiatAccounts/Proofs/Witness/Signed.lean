/-
What a signature of a witness or a timestamp binds it to.

The signed bytes are those of a message of two fields: the hash, with its length
in front of it, and the date, which is not written at all if it is zero and
takes from one to ten bytes otherwise. So messages are of many lengths, and a
field may be missing from either. The bytes determine the two all the same,
because those of any faithful layout do (`Faithful.encode_inj`).

So a changed hash or date makes another message, and the signature was not made
for that one. The verifier is not known here. It is taken to say yes to a
signature for no other message than the one that the signer signed
(`Verifier.Binds`). That it says yes to that one is what `Verifier.Accepts` says
of it, and is not needed.
-/
import FiatAccounts.Proofs.Message.Faithful
import FiatAccounts.Proofs.Witness.Request

namespace FiatAccounts

-- ============================================================ messages

/-- No two witnesses have one message. -/
theorem AgeWitness.signingMessage_injective :
    Function.Injective AgeWitness.signingMessage := by
  rintro ⟨hash, date⟩ ⟨hash', date'⟩ h
  have faithful : Message.AgeWitness.layout.Faithful 0 :=
    Message.AgeWitness.layout_faithful
  cases faithful.encode_inj h
  rfl

theorem AccountTimestamp.signingMessage_injective :
    Function.Injective AccountTimestamp.signingMessage := by
  rintro ⟨hash, date⟩ ⟨hash', date'⟩ h
  have faithful : Message.AccountTimestamp.layout.Faithful 0 :=
    Message.AccountTimestamp.layout_faithful
  cases faithful.encode_inj h
  rfl

-- ========================================================== signatures

/-- Under this public key the verifier says yes to a signature of the signer's
for the signed message only. -/
def Verifier.Binds (verifier : Verifier) (signer : Signer)
    (publicKey : List UInt8) : Prop :=
  ∀ message algorithm signature,
    signer message algorithm = .ok signature →
    ∀ other, verifier publicKey other signature algorithm = .ok true →
      other = message

variable {config : Config} {payload : Payload Instrument}
  {peerNow now : Millis} {publicKey signature : List UInt8}
  {algorithm : KeyAlgorithm} {verifier : Verifier} {signer : Signer}

/-- A witness that is accepted with a signature is the one that was signed. -/
theorem AgeWitness.eq_of_verify {w w' : AgeWitness}
    (binds : verifier.Binds signer publicKey)
    (signed : signer w.signingMessage algorithm = .ok signature)
    (h : w'.verify config payload peerNow now publicKey signature algorithm
          verifier
        = .ok ()) :
    w' = w :=
  signingMessage_injective (binds _ _ _ signed _ (verify_eq_ok.1 h).2)

/-- A timestamp that is accepted with a signature is the one that was signed. -/
theorem AccountTimestamp.eq_of_verify {t t' : AccountTimestamp}
    (binds : verifier.Binds signer publicKey)
    (signed : signer t.signingMessage algorithm = .ok signature)
    (h : t'.verify payload publicKey signature algorithm verifier = .ok ()) :
    t' = t :=
  signingMessage_injective (binds _ _ _ signed _ (verify_eq_ok.1 h).2)

/-- The signed bytes of two witnesses are the same exactly when their hashes and
their dates are, and so are those of two timestamps. Under a verifier that keeps
to the signed message, a witness or a timestamp whose hash or date was changed
after it was signed is refused, whatever payload, clocks and limits it is
checked against. -/
theorem signingMessage_identifies (hash hash' : List UInt8)
    (date date' : Millis) :
    (AgeWitness.signingMessage ⟨hash, date⟩
          = AgeWitness.signingMessage ⟨hash', date'⟩
        ↔ hash = hash' ∧ date = date')
      ∧ (AccountTimestamp.signingMessage ⟨hash, date⟩
          = AccountTimestamp.signingMessage ⟨hash', date'⟩
        ↔ hash = hash' ∧ date = date')
      ∧ ∀ (signer : Signer) (verifier : Verifier)
          (publicKey signature : List UInt8) (algorithm : KeyAlgorithm),
        verifier.Binds signer publicKey →
        hash' ≠ hash ∨ date' ≠ date →
        (signer (AgeWitness.signingMessage ⟨hash, date⟩) algorithm
            = .ok signature →
          ∀ config payload peerNow now,
            AgeWitness.verify config ⟨hash', date'⟩ payload peerNow now
                publicKey signature algorithm verifier
              ≠ .ok ())
        ∧ (signer (AccountTimestamp.signingMessage ⟨hash, date⟩) algorithm
            = .ok signature →
          ∀ payload,
            AccountTimestamp.verify ⟨hash', date'⟩ payload publicKey signature
                algorithm verifier
              ≠ .ok ()) := by
  refine ⟨?_, ?_, ?_⟩
  · rw [AgeWitness.signingMessage_injective.eq_iff, AgeWitness.mk.injEq]
  · rw [AccountTimestamp.signingMessage_injective.eq_iff,
      AccountTimestamp.mk.injEq]
  · intro signer verifier publicKey signature algorithm binds changed
    refine ⟨?_, ?_⟩
    · intro signed config payload peerNow now haccepted
      cases AgeWitness.eq_of_verify binds signed haccepted
      exact changed.elim (absurd rfl) (absurd rfl)
    · intro signed payload haccepted
      cases AccountTimestamp.eq_of_verify binds signed haccepted
      exact changed.elim (absurd rfl) (absurd rfl)

/-- What repeats a message as its signature is bound to it. -/
theorem Verifier.echo_binds (publicKey : List UInt8) :
    echo.Binds .echo publicKey := by
  intro message algorithm signature hsigned other hyes
  unfold Signer.echo at hsigned
  split at hsigned
  · cases hsigned
  · cases hsigned
    unfold echo at hyes
    split at hyes
    · cases hyes
    · exact (eq_of_beq (Except.ok.inj hyes)).symm

/-- The witness of `Payload.sample` under a key, of an instant. -/
def AgeWitness.sampleAt (date : Millis) : AgeWitness :=
  ⟨Payload.sample.witnessHash [4, 8], date⟩

/-- A witness that is dated back by a second while it is as good as before in
all other respects, and a timestamp of the date that is not written. -/
theorem signingMessage_identifies_backdated :
    (AgeWitness.sampleAt 1700000000000).verify .standard .sample 1700000000000
          1700000000000 [4, 8]
          (AgeWitness.sampleAt 1700000000000).signingMessage .ed25519 .echo
        = .ok ()
      ∧ (AgeWitness.sampleAt 1699999999000).screen .standard .sample
          1700000000000 1700000000000 [4, 8]
        = .ok ()
      ∧ (AgeWitness.sampleAt 1699999999000).verify .standard .sample
          1700000000000 1700000000000 [4, 8]
          (AgeWitness.sampleAt 1700000000000).signingMessage .ed25519 .echo
        ≠ .ok ()
      ∧ AccountTimestamp.signingMessage ⟨[], 0⟩
        ≠ AccountTimestamp.signingMessage ⟨[], Int64.minValue⟩ := by
  have hscreen {date : Millis}
      (h : Check.date "date" date 1700000000000 = .ok ()) :
      (AgeWitness.sampleAt date).screen .standard .sample 1700000000000
          1700000000000 [4, 8]
        = .ok () :=
    AgeWitness.screen_eq_ok.2 ⟨by decide, h, rfl⟩
  refine ⟨?_, hscreen rfl, ?_, ?_⟩
  · exact AgeWitness.verify_eq_ok.2
      ⟨hscreen rfl, Verifier.echo_self (by decide)⟩
  · have hchanged : (1699999999000 : Millis) ≠ 1700000000000 := by decide
    have hbound (hash signature : List UInt8) :=
      (signingMessage_identifies hash hash _ _).2.2 .echo .echo [4, 8] signature
        .ed25519 (Verifier.echo_binds _) (.inr hchanged)
    exact (hbound _ _).1 rfl _ _ _ _
  · rw [ne_eq, (signingMessage_identifies _ _ _ _).2.1]
    decide

end FiatAccounts

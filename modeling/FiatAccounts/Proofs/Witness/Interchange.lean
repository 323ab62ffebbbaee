/-
An age witness and an account timestamp are one proof under two names.

Both hash the same bytes of a payload and a key, and both are signed over the
same bytes: their messages have the same fields under the same numbers. Nothing
in what is signed says for which of the two it was signed, so each signature
serves for the other. What an age witness asks for beyond a timestamp is asked
of clocks and dates, which are not what the signer controls.
-/
import FiatAccounts.Proofs.Witness.Request

namespace FiatAccounts

/-- The two hashes are taken of the same bytes. -/
theorem Payload.witnessHash_eq_timestampHash (p : Payload Instrument)
    (publicKey : List UInt8) :
    p.witnessHash publicKey = p.timestampHash publicKey := rfl

/-- The two messages are written alike. -/
theorem signingMessage_eq (hash : List UInt8) (date : Millis) :
    AgeWitness.signingMessage ⟨hash, date⟩
      = AccountTimestamp.signingMessage ⟨hash, date⟩ := rfl

variable {config : Config} {payload : Payload Instrument}
  {peerNow now : Millis} {publicKey signature : List UInt8}
  {algorithm : KeyAlgorithm} {verifier : Verifier}

/-- A witness is accepted exactly when the same statement is accepted as a
timestamp and clock and date are good. -/
theorem AgeWitness.verify_iff_timestamp {hash : List UInt8} {date : Millis} :
    verify config ⟨hash, date⟩ payload peerNow now publicKey signature algorithm
          verifier
        = .ok ()
      ↔ drift peerNow now ≤ config.clockTolerance
        ∧ Check.date "date" date now = .ok ()
        ∧ AccountTimestamp.verify ⟨hash, date⟩ payload publicKey signature
            algorithm verifier
          = .ok () := by
  rw [verify_eq_ok, screen_eq_ok, AccountTimestamp.verify_eq_ok,
    signingMessage_eq, Payload.witnessHash_eq_timestampHash]
  simp only [and_assoc]

/-- Age witnesses and account timestamps stand in for each other. The same hash
and date are accepted as a witness exactly when they are accepted as a timestamp
and the clock and the date pass. A signed request for one is accepted as the
other: a timestamp request as a witness where the clock and its date pass, and a
witness request as a timestamp always. -/
theorem witness_interchange (config : Config) (hash : List UInt8)
    (date : Millis) (payload : Payload Instrument) (peerNow now : Millis)
    (publicKey signature : List UInt8) (algorithm : KeyAlgorithm)
    (verifier : Verifier) :
    (AgeWitness.verify config ⟨hash, date⟩ payload peerNow now publicKey
            signature algorithm verifier
          = .ok ()
        ↔ AgeWitness.drift peerNow now ≤ config.clockTolerance
          ∧ Check.date "date" date now = .ok ()
          ∧ AccountTimestamp.verify ⟨hash, date⟩ payload publicKey signature
              algorithm verifier
            = .ok ())
      ∧ payload.witnessHash publicKey = payload.timestampHash publicKey
      ∧ AgeWitness.signingMessage ⟨hash, date⟩
        = AccountTimestamp.signingMessage ⟨hash, date⟩
      ∧ (∀ (a : PaymentAccount) (signer : Signer)
          (r : AccountTimestampRequest),
        a.requestTimestamp signer = .ok r →
        verifier.Accepts signer r.publicKey →
        AgeWitness.drift peerNow now ≤ config.clockTolerance →
        Check.date "date" r.timestamp.date now = .ok () →
        AgeWitness.verify config ⟨r.timestamp.hash, r.timestamp.date⟩ a.payload
            peerNow now r.publicKey r.signature r.algorithm verifier
          = .ok ())
      ∧ ∀ (a : PaymentAccount) (t : Millis) (signer : Signer)
          (r : AgeWitnessRequest),
        a.requestAgeWitness t signer = .ok r →
        verifier.Accepts signer r.publicKey →
        AccountTimestamp.verify ⟨r.witness.hash, r.witness.date⟩ a.payload
            r.publicKey r.signature r.algorithm verifier
          = .ok () := by
  refine ⟨AgeWitness.verify_iff_timestamp,
    payload.witnessHash_eq_timestampHash publicKey,
    signingMessage_eq hash date, ?_, ?_⟩
  · intro a signer r hmade accepts hclock hdate
    obtain ⟨s, signature, -, hsigned, rfl⟩ :=
      PaymentAccount.requestTimestamp_eq_ok.1 hmade
    -- a request is made with the payload's own hash
    refine AgeWitness.verify_iff_timestamp.2 ⟨hclock, hdate, ?_⟩
    exact AccountTimestamp.verify_eq_ok.2 ⟨rfl, accepts _ _ _ hsigned⟩
  · intro a t signer r hmade accepts
    obtain ⟨-, s, signature, -, hsigned, rfl⟩ :=
      PaymentAccount.requestAgeWitness_eq_ok.1 hmade
    exact AccountTimestamp.verify_eq_ok.2 ⟨rfl, accepts _ _ _ hsigned⟩

/-- `PaymentAccount.sample` with a date on which there are witnesses. -/
def PaymentAccount.datedSample : PaymentAccount :=
  ofRecord
    { PaymentAccount.sample.record with creationDate := 1700000000000 }

/-- A timestamp that serves as a witness, and one that does not because of its
date. -/
theorem witness_interchange_sample :
    (∃ r, PaymentAccount.datedSample.requestTimestamp .echo = .ok r
        ∧ AgeWitness.verify .standard ⟨r.timestamp.hash, r.timestamp.date⟩
            PaymentAccount.datedSample.payload 1700000000000 1700000000000
            r.publicKey r.signature r.algorithm .echo
          = .ok ())
      ∧ ∀ signature verifier,
        AgeWitness.verify .standard ⟨Payload.sample.timestampHash [4, 8], -1⟩
            .sample 1700000000000 1700000000000 [4, 8] signature .ed25519
            verifier
          ≠ .ok () := by
  have h (hash : List UInt8) (date : Millis) (signature : List UInt8)
      (verifier : Verifier) :=
    witness_interchange .standard hash date .sample 1700000000000 1700000000000
      [4, 8] signature .ed25519 verifier
  have hclock : AgeWitness.drift 1700000000000 1700000000000
      ≤ Config.standard.clockTolerance := by decide
  have accepts : Verifier.echo.Accepts .echo [4, 8] :=
    Verifier.echo_accepts (by decide)
  refine ⟨⟨_, rfl, ?_⟩, ?_⟩
  · exact (h [] 0 [] .echo).2.2.2.1 _ _ _ rfl accepts hclock rfl
  · intro signature verifier haccepted
    have hdate := ((h _ _ _ _).1.1 haccepted).2.1
    exact absurd (Check.range_of_date hdate).1 (by decide)

end FiatAccounts

/-
What an account signs is accepted by every peer who can read the account.

A request is made of the account's payload and key, and its parts are looked at
again, one by one, when it is checked. Both sides hash the same bytes, because
the payload that a peer reads from the account's bytes is the account's own, in
the form without the private key as well (`exists_decoded`). Both sides take the
same bytes for the signed message. So what is left to the two clocks is what
`AgeWitness.Admissible` says of them.

The signer and the verifier are not known here. They are taken to belong
together: the verifier says yes to what the signer signs (`Verifier.Accepts`).
-/
import FiatAccounts.Proofs.Witness.Verify

namespace FiatAccounts

/-- Under this public key the verifier says yes to every signature that the
signer makes. -/
def Verifier.Accepts (verifier : Verifier) (signer : Signer)
    (publicKey : List UInt8) : Prop :=
  ∀ message algorithm signature,
    signer message algorithm = .ok signature →
      verifier publicKey message signature algorithm = .ok true

namespace PaymentAccount

variable {a : PaymentAccount} {s : SigningIdentity} {signer : Signer}
  {t : Millis}

-- ============================================================ requests

/-- A key that is asked for is there. -/
theorem needSigning_eq_ok : a.needSigning = .ok s ↔ a.signing = some s := by
  unfold needSigning
  cases a.signing <;> simp

/-- The account's witness of an instant, under a key. -/
def witnessAt (a : PaymentAccount) (s : SigningIdentity) (t : Millis) :
    AgeWitness :=
  ⟨a.payload.witnessHash s.publicKey, t⟩

/-- The account's timestamp, under a key. -/
def timestampUnder (a : PaymentAccount) (s : SigningIdentity) :
    AccountTimestamp :=
  ⟨a.payload.timestampHash s.publicKey, a.creationDate⟩

/-- The request that goes with a signature of the account's witness. -/
def witnessRequest (a : PaymentAccount) (s : SigningIdentity) (t : Millis)
    (signature : List UInt8) : AgeWitnessRequest where
  witness := a.witnessAt s t
  blindedInput := a.payload.blindedInput
  publicKey := s.publicKey
  signature := signature
  algorithm := s.algorithm
  date := t

/-- The request that goes with a signature of the account's timestamp. -/
def timestampRequest (a : PaymentAccount) (s : SigningIdentity)
    (signature : List UInt8) : AccountTimestampRequest where
  kind := .ofOrigin s.origin
  timestamp := a.timestampUnder s
  saltedFingerprint := a.payload.saltedFingerprint
  publicKey := s.publicKey
  signature := signature
  algorithm := s.algorithm

/-- A witness is made of an account that has a key, for an instant that is good
as a date of itself, if the signer signs it. -/
theorem requestAgeWitness_eq_ok {r : AgeWitnessRequest} :
    a.requestAgeWitness t signer = .ok r
      ↔ Check.date "date" t t = .ok ()
        ∧ ∃ s signature, a.signing = some s
          ∧ signer (a.witnessAt s t).signingMessage s.algorithm = .ok signature
          ∧ r = a.witnessRequest s t signature := by
  unfold requestAgeWitness
  rw [bind_unit_eq_ok, Check.raise_eq_ok]
  simp only [bind_eq_ok, needSigning_eq_ok]
  refine and_congr_right' ⟨?_, ?_⟩
  · rintro ⟨s, hs, signature, hsigned, hr⟩
    cases hr
    exact ⟨s, signature, hs, hsigned, rfl⟩
  · rintro ⟨s, signature, hs, hsigned, rfl⟩
    exact ⟨s, hs, signature, hsigned, rfl⟩

/-- A timestamp is made of an account that has a key, if the signer signs it. No
clock and no date is looked at. -/
theorem requestTimestamp_eq_ok {r : AccountTimestampRequest} :
    a.requestTimestamp signer = .ok r
      ↔ ∃ s signature, a.signing = some s
        ∧ signer (a.timestampUnder s).signingMessage s.algorithm
          = .ok signature
        ∧ r = a.timestampRequest s signature := by
  unfold requestTimestamp AccountTimestamp.ofAccount
  simp only [bind_eq_ok, needSigning_eq_ok]
  constructor
  · rintro ⟨timestamp, ⟨s, hs, ht⟩, s', hs', signature, hsigned, hr⟩
    rw [hs] at hs'
    cases hs'
    cases ht
    cases hr
    exact ⟨s, signature, hs, hsigned, rfl⟩
  · rintro ⟨s, signature, hs, hsigned, rfl⟩
    exact ⟨_, ⟨s, hs, rfl⟩, s, hs, signature, hsigned, rfl⟩

-- =============================================================== peers

/-- Both forms of an account are read, and as an account around its payload. -/
theorem exists_decoded (verified : a.payload.verify = .ok ())
    {form : Form} (fits : (encodeAccount a form).length < UInt64.size) :
    ∃ b, decodeAccount (encodeAccount a form) = .ok b
      ∧ b.payload = a.payload := by
  cases form with
  | wire => exact ⟨a, decodeAccount_wire verified fits, rfl⟩
  | canonical =>
      rw [encodeAccount_canonical] at fits ⊢
      have hpayload := a.payload_withoutPrivateKey
      rw [← hpayload] at verified
      exact ⟨_, decodeAccount_wire verified fits, hpayload⟩

/-- Something holds of the account's payload and of the payload that a peer
reads from the account's bytes, in either form. -/
def PayloadEverywhere (a : PaymentAccount)
    (holds : Payload Instrument → Prop) : Prop :=
  holds a.payload
    ∧ ∀ form, ∃ b, decodeAccount (encodeAccount a form) = .ok b
      ∧ holds b.payload

/-- What holds of an account's payload holds wherever a peer reads it. -/
theorem payloadEverywhere {holds : Payload Instrument → Prop}
    (verified : a.payload.verify = .ok ())
    (fits : ∀ form, (encodeAccount a form).length < UInt64.size)
    (h : holds a.payload) : a.PayloadEverywhere holds := by
  refine ⟨h, fun form => ?_⟩
  obtain ⟨b, hb, hpayload⟩ := exists_decoded verified (fits form)
  exact ⟨b, hb, hpayload ▸ h⟩

end PaymentAccount

-- ========================================================== acceptance

/-- Every witness that an account makes of itself, and its timestamp, is
accepted by a peer who is shown the account's payload or reads it from the
account's bytes. The witness can be of any instant after the network's launch
but the last; the peer's clock need only be less than two hours behind it, and
the two clocks that the peer compares within the tolerance. The timestamp is of
the account's creation, whenever that was. `fits` holds of all bytes that a
memory can hold. -/
theorem requests_accepted (a : PaymentAccount) (s : SigningIdentity)
    (signer : Signer) (verifier : Verifier) (signing : a.signing = some s)
    (accepts : verifier.Accepts signer s.publicKey)
    (verified : a.payload.verify = .ok ())
    (fits : ∀ form, (encodeAccount a form).length < UInt64.size) :
    (∀ t : Millis, 1461715200000 < t.toInt → t < Int64.maxValue →
      ∀ signature,
        signer (a.witnessAt s t).signingMessage s.algorithm = .ok signature →
        ∃ r, a.requestAgeWitness t signer = .ok r
          ∧ r.witness.hash = Hash.Sha256.digest (r.blindedInput ++ r.publicKey)
          ∧ r.date = t ∧ r.witness.date = t
          ∧ ∀ (config : Config) (now peerNow : Millis),
            t.toInt < now.toInt + 7200000 →
            ((peerNow.toInt - now.toInt).natAbs : Int)
              ≤ config.clockTolerance.toInt →
            a.PayloadEverywhere fun p =>
              r.witness.verify config p peerNow now r.publicKey r.signature
                r.algorithm verifier = .ok ())
      ∧ ∀ signature,
        signer (a.timestampUnder s).signingMessage s.algorithm
          = .ok signature →
        ∃ r, a.requestTimestamp signer = .ok r
          ∧ r.timestamp.date = a.creationDate
          ∧ a.PayloadEverywhere fun p =>
            r.timestamp.verify p r.publicKey r.signature r.algorithm verifier
              = .ok () := by
  refine ⟨?_, ?_⟩
  · intro t launched dated signature hsigned
    -- Any instant is less than two hours ahead of itself.
    have hdate : Check.date "date" t t = .ok () :=
      Check.date_of_range dated launched (by omega)
    have hmade := PaymentAccount.requestAgeWitness_eq_ok.2
      ⟨hdate, s, signature, signing, hsigned, rfl⟩
    refine ⟨_, hmade, rfl, rfl, rfl, ?_⟩
    intro config now peerNow ahead clock
    apply PaymentAccount.payloadEverywhere verified fits
    have admissible : (a.witnessAt s t).Admissible config a.payload peerNow now
        s.publicKey :=
      { clock, launched, ahead, hash := rfl }
    exact AgeWitness.verify_eq_ok.2
      ⟨admissible.screen dated, accepts _ _ _ hsigned⟩
  · intro signature hsigned
    have hmade := PaymentAccount.requestTimestamp_eq_ok.2
      ⟨s, signature, signing, hsigned, rfl⟩
    refine ⟨_, hmade, rfl, ?_⟩
    apply PaymentAccount.payloadEverywhere verified fits
    exact AccountTimestamp.verify_eq_ok.2 ⟨rfl, accepts _ _ _ hsigned⟩

/-- Signs a message by repeating it, and under one algorithm not at all. -/
def Signer.echo : Signer := fun message algorithm =>
  if algorithm = .dsa then .error (.signature "DSA is not available")
  else .ok message

/-- What repeats a message as its signature says yes to it, under any key but an
empty one. -/
theorem Verifier.echo_accepts {publicKey : List UInt8} (h : publicKey ≠ []) :
    echo.Accepts .echo publicKey := by
  intro message algorithm signature hsigned
  unfold Signer.echo at hsigned
  split at hsigned
  · cases hsigned
  · cases hsigned
    exact echo_self h

/-- A witness at the last instant but one, between clocks a day apart, and a
timestamp of a date before the launch. -/
theorem requests_accepted_sample :
    (∃ r, PaymentAccount.sample.requestAgeWitness (Int64.maxValue - 1) .echo
          = .ok r
        ∧ PaymentAccount.sample.PayloadEverywhere fun p =>
          r.witness.verify .standard p (Int64.maxValue - 86400000)
            Int64.maxValue r.publicKey r.signature r.algorithm .echo = .ok ())
      ∧ ∃ r, PaymentAccount.sample.requestTimestamp .echo = .ok r
        ∧ r.timestamp.date = -1
        ∧ PaymentAccount.sample.PayloadEverywhere fun p =>
          r.timestamp.verify p r.publicKey r.signature r.algorithm .echo
            = .ok () := by
  have fits (form : Form) :
      (encodeAccount .sample form).length < UInt64.size := by
    cases form <;> decide +kernel
  have h := requests_accepted .sample _ .echo .echo rfl
    (Verifier.echo_accepts (by decide)) rfl fits
  obtain ⟨r, hmade, -, -, -, haccepted⟩ :=
    h.1 (Int64.maxValue - 1) (by decide) (by decide) _ rfl
  exact ⟨⟨r, hmade, haccepted _ _ _ (by decide) (by decide)⟩, h.2 _ rfl⟩

end FiatAccounts

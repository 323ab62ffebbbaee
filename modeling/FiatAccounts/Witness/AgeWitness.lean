/-
Age witnesses: a signed statement that an account's payment data existed at an
instant, which does not show the data. The statement is a hash over the
payload's fingerprint, its salt and the account's public key, so whoever is
shown the payload later can check it.
-/
import FiatAccounts.Check.Date
import FiatAccounts.Config.Basic
import FiatAccounts.Hash.Sha256
import FiatAccounts.Message.Witness
import FiatAccounts.Payload.Fingerprint
import FiatAccounts.Witness.Signing

namespace FiatAccounts

namespace Payload

/-- What a witness says about the payload's instrument. -/
def witnessInput (p : Payload Instrument) : List UInt8 := p.fingerprint

/-- The same with the salt that keeps it from being guessed. -/
def blindedInput (p : Payload Instrument) : List UInt8 :=
  p.witnessInput ++ p.salt

/-- The hash that a witness carries for the payload under a public key. -/
def witnessHash (p : Payload Instrument) (publicKey : List UInt8) :
    List UInt8 :=
  Hash.Sha256.digest (p.blindedInput ++ publicKey)

end Payload

-- =========================================================== witnesses

structure AgeWitness where
  hash : List UInt8
  date : Millis
  deriving DecidableEq, Repr

/-- The bytes that are signed. -/
def AgeWitness.signingMessage (w : AgeWitness) : List UInt8 :=
  Message.AgeWitness.layout.encode ⟨w.hash, w.date⟩

/-- A witness with all that is needed to check and publish it. -/
structure AgeWitnessRequest where
  witness : AgeWitness
  blindedInput : List UInt8
  publicKey : List UInt8
  signature : List UInt8
  algorithm : KeyAlgorithm
  date : Millis
  deriving DecidableEq, Repr

-- ================================================= making and checking

/-- A signed witness of the account's payload, dated now. -/
def PaymentAccount.requestAgeWitness (a : PaymentAccount) (now : Millis)
    (signer : Signer) :
    Except AccountError AgeWitnessRequest := do
  (Check.date "date" now now).raise
  let signing ← a.needSigning
  let witness : AgeWitness := ⟨a.payload.witnessHash signing.publicKey, now⟩
  let signature ← signer witness.signingMessage signing.algorithm
  pure
    { witness, signature
      date := now
      blindedInput := a.payload.blindedInput
      publicKey := signing.publicKey
      algorithm := signing.algorithm }

namespace AgeWitness

/-- How far the clocks of two peers are apart. -/
def drift (peerNow now : Millis) : Millis :=
  Millis.magnitude (Millis.minus peerNow now)

/-- The peer's clock is within the tolerance. -/
def checkClock (config : Config) (peerNow now : Millis) :
    Except AccountError Unit :=
  if config.clockTolerance < drift peerNow now then
    .error (.ageWitness s!"peer clock off by {(drift peerNow now).toInt} ms")
  else .ok ()

/-- The witness is dated inside the accepted range. -/
def checkDate (w : AgeWitness) (now : Millis) : Except AccountError Unit :=
  (Check.date "date" w.date now).mapError fun fault =>
    .ageWitness fault.message

/-- The witness carries the hash of this payload and this key. -/
def checkHash (w : AgeWitness) (payload : Payload Instrument)
    (publicKey : List UInt8) :
    Except AccountError Unit :=
  if w.hash = payload.witnessHash publicKey then .ok ()
  else .error (.ageWitness "witness hash does not match payload")

/-- Whether a peer's witness holds for the payload that the peer has shown. -/
def verify (config : Config) (w : AgeWitness) (payload : Payload Instrument)
    (peerNow now : Millis)
    (publicKey signature : List UInt8) (algorithm : KeyAlgorithm)
    (verifier : Verifier) :
    Except AccountError Unit := do
  checkClock config peerNow now
  w.checkDate now
  w.checkHash payload publicKey
  verifier.accept publicKey w.signingMessage signature algorithm

end AgeWitness

end FiatAccounts

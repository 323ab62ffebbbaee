/-
Account timestamps: a signed statement of the instant at which an account was
created. It is made of the account's own date and does not look at a clock.
-/
import FiatAccounts.Hash.Sha256
import FiatAccounts.Message.Witness
import FiatAccounts.Payload.Fingerprint
import FiatAccounts.Witness.Signing

namespace FiatAccounts

namespace Payload

/-- The fingerprint with the salt that keeps it from being guessed. -/
def saltedFingerprint (p : Payload Instrument) : List UInt8 :=
  p.fingerprint ++ p.salt

/-- The hash that a timestamp carries for the payload under a public key. -/
def timestampHash (p : Payload Instrument) (publicKey : List UInt8) :
    List UInt8 :=
  Hash.Sha256.digest (p.saltedFingerprint ++ publicKey)

end Payload

-- ========================================================== timestamps

structure AccountTimestamp where
  hash : List UInt8
  date : Millis
  deriving DecidableEq, Repr

namespace AccountTimestamp

/-- The bytes that are signed. -/
def signingMessage (t : AccountTimestamp) : List UInt8 :=
  Message.AccountTimestamp.layout.encode ⟨t.hash, t.date⟩

/-- The timestamp of an account, dated when it was created. -/
def ofAccount (a : PaymentAccount) : Except AccountError AccountTimestamp := do
  let signing ← a.needSigning
  pure ⟨a.payload.timestampHash signing.publicKey, a.creationDate⟩

end AccountTimestamp

/-- Whether the timestamp is for an account taken over from an older system or
for one created here. -/
inductive TimestampKind where
  | legacyImport
  | created
  deriving DecidableEq, Repr

namespace TimestampKind

def ofOrigin : AccountOrigin → TimestampKind
  | .legacyImport => .legacyImport
  | .created => .created

def name : TimestampKind → String
  | .legacyImport => "LegacyImport"
  | .created => "Created"

end TimestampKind

/-- A timestamp with all that is needed to check and publish it. -/
structure AccountTimestampRequest where
  kind : TimestampKind
  timestamp : AccountTimestamp
  saltedFingerprint : List UInt8
  publicKey : List UInt8
  signature : List UInt8
  algorithm : KeyAlgorithm
  deriving DecidableEq, Repr

-- ================================================= making and checking

/-- A signed timestamp of the account. -/
def PaymentAccount.requestTimestamp (a : PaymentAccount) (signer : Signer) :
    Except AccountError AccountTimestampRequest := do
  let timestamp ← AccountTimestamp.ofAccount a
  let signing ← a.needSigning
  let signature ← signer timestamp.signingMessage signing.algorithm
  pure
    { timestamp, signature
      kind := .ofOrigin signing.origin
      saltedFingerprint := a.payload.saltedFingerprint
      publicKey := signing.publicKey
      algorithm := signing.algorithm }

namespace AccountTimestamp

/-- The timestamp carries the hash of this payload and this key. -/
def checkHash (t : AccountTimestamp) (payload : Payload Instrument)
    (publicKey : List UInt8) :
    Except AccountError Unit :=
  if t.hash = payload.timestampHash publicKey then .ok ()
  else .error (.ageWitness "timestamp hash does not match payload")

/-- Whether a peer's timestamp holds for the payload that the peer has
shown. -/
def verify (t : AccountTimestamp) (payload : Payload Instrument)
    (publicKey signature : List UInt8)
    (algorithm : KeyAlgorithm) (verifier : Verifier) :
    Except AccountError Unit := do
  t.checkHash payload publicKey
  verifier.accept publicKey t.signingMessage signature algorithm

end AccountTimestamp

end FiatAccounts

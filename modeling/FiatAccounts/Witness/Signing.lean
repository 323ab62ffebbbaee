/-
Signing and the life of what was signed. How a key signs is left to the caller:
a `Signer` holds an account's private key, a `Verifier` checks a signature
against a public one.
-/
import FiatAccounts.Account.Basic
import FiatAccounts.Config.Basic

namespace FiatAccounts

/-- Signs a message under an algorithm, or says why it cannot. -/
abbrev Signer :=
  (message : List UInt8) → KeyAlgorithm → Except AccountError (List UInt8)

/-- Whether a signature of a message is the public key's, or why that cannot be
told. -/
abbrev Verifier :=
  (publicKey message signature : List UInt8) → KeyAlgorithm
  → Except AccountError Bool

namespace PaymentAccount

/-- The account's key, without which it cannot sign. -/
def needSigning (a : PaymentAccount) : Except AccountError SigningIdentity :=
  match a.signing with
  | some signing => .ok signing
  | none => .error (.signature "account has no signing identity")

end PaymentAccount

namespace Verifier

/-- Accepts the signature or rejects what was signed. -/
def accept (verifier : Verifier) (publicKey message signature : List UInt8)
    (algorithm : KeyAlgorithm) : Except AccountError Unit := do
  if ← verifier publicKey message signature algorithm then pure ()
  else .error (.ageWitness "signature verification failed")

end Verifier

/-- Whether half of a record's life is over, so that it should be published
again. Half of an odd number of milliseconds is taken toward zero. -/
def isHalfExpired (published lifetime now : Millis) : Bool :=
  published ≤ Millis.minus now (lifetime / 2)

/-- The same with the lifetime that a configuration sets. -/
def Config.isHalfExpired (config : Config) (published now : Millis) : Bool :=
  FiatAccounts.isHalfExpired published config.lifetime now

end FiatAccounts

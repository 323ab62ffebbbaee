/-
Payloads and accounts as bytes.

There are two forms. The wire form holds everything and is what is stored and
sent. The canonical form leaves out the secret half of a key and is what is
hashed and signed. Decoding reads either, and yields nothing unless the whole
of the bytes is a message and the message is a payload or an account.

A `Codec` does the same under a configuration's limit on the number of bytes,
in both directions.
-/
import FiatAccounts.Account.Message
import FiatAccounts.Config.Basic
import FiatAccounts.Hash.Sha256

namespace FiatAccounts

/-- Which form of a message is written. -/
inductive Form where
  | wire
  | canonical
  deriving DecidableEq, Repr

-- ===================================================== without a limit

/-- The bytes of a payload. Nothing in a payload is secret, so both forms are
the same. -/
def encodePayload (p : Payload Instrument) : Form → List UInt8
  | .wire => Message.Payload.layout.encode p.toMessage
  | .canonical => Message.Payload.layout.encode p.toMessage

/-- The payload of these bytes. -/
def decodePayload (bytes : List UInt8) :
    Except AccountError (Payload Instrument) :=
  match Message.Payload.layout.decode? bytes with
  | some m => Payload.ofMessage m
  | none => .error (.decode .malformed)

/-- The bytes of an account. -/
def encodeAccount (a : PaymentAccount) : Form → List UInt8
  | .wire => Message.Account.layout.encode a.toMessage
  | .canonical => Message.Account.layout.encode a.toMessage.withoutPrivateKey

/-- The account of these bytes. -/
def decodeAccount (bytes : List UInt8) : Except AccountError PaymentAccount :=
  match Message.Account.layout.decode? bytes with
  | some m => PaymentAccount.ofMessage m
  | none => .error (.decode .malformed)

/-- The hash of the canonical form. -/
def Payload.contentHash (p : Payload Instrument) : List UInt8 :=
  Hash.Sha256.digest (encodePayload p .canonical)

def PaymentAccount.contentHash (a : PaymentAccount) : List UInt8 :=
  Hash.Sha256.digest (encodeAccount a .canonical)

-- ======================================================= under a limit

/-- A configuration that has been found usable. -/
structure Codec where
  config : Config
  deriving DecidableEq, Repr

namespace Codec

/-- The codec of a configuration. -/
def ofConfig (config : Config) : Except AccountError Codec := do
  config.validate
  pure ⟨config⟩

/-- Refuses more bytes than the limit. -/
def checkSize (codec : Codec) (bytes : List UInt8) :
    Except AccountError Unit :=
  if codec.config.maxWireLength < bytes.length then
    .error (.decode (.oversize bytes.length codec.config.maxWireLength))
  else .ok ()

def encodePayload (codec : Codec) (p : Payload Instrument) (form : Form) :
    Except AccountError (List UInt8) := do
  codec.checkSize (FiatAccounts.encodePayload p form)
  pure (FiatAccounts.encodePayload p form)

def decodePayload (codec : Codec) (bytes : List UInt8) :
    Except AccountError (Payload Instrument) := do
  codec.checkSize bytes
  FiatAccounts.decodePayload bytes

def encodeAccount (codec : Codec) (a : PaymentAccount) (form : Form) :
    Except AccountError (List UInt8) := do
  codec.checkSize (FiatAccounts.encodeAccount a form)
  pure (FiatAccounts.encodeAccount a form)

def decodeAccount (codec : Codec) (bytes : List UInt8) :
    Except AccountError PaymentAccount := do
  codec.checkSize bytes
  FiatAccounts.decodeAccount bytes

end Codec

end FiatAccounts

/-
A codec is the coding without a limit, cut at one limit.

The same cut is made on what goes out and on what comes in (`underLimit`), so
the limit is the only difference between two codecs. A codec with a higher limit
does all that one with a lower limit does, and reads all that it writes.
-/
import FiatAccounts.Proofs.Codec.RoundTrip

namespace FiatAccounts

-- ============================================================== limits

section

variable {α : Type} {limit limit' : Nat} {bytes : List UInt8}
  {result : Except AccountError α} {value : α}

/-- The result, unless there are more bytes than the limit. -/
def underLimit (limit : Nat) (bytes : List UInt8)
    (result : Except AccountError α) : Except AccountError α :=
  if bytes.length ≤ limit then result
  else .error (.decode (.oversize bytes.length limit))

/-- What comes out under a limit came out without it and is no longer than
that. -/
theorem underLimit_eq_ok :
    underLimit limit bytes result = .ok value
      ↔ bytes.length ≤ limit ∧ result = .ok value := by
  unfold underLimit
  by_cases h : bytes.length ≤ limit
  · rw [if_pos h]
    exact ⟨fun hresult => ⟨h, hresult⟩, And.right⟩
  · rw [if_neg h]
    exact ⟨nofun, fun hboth => absurd hboth.1 h⟩

/-- A higher limit cuts less. -/
theorem underLimit_mono (hle : limit ≤ limit')
    (h : underLimit limit bytes result = .ok value) :
    underLimit limit' bytes result = .ok value := by
  obtain ⟨hlength, hresult⟩ := underLimit_eq_ok.1 h
  exact underLimit_eq_ok.2 ⟨Nat.le_trans hlength hle, hresult⟩

end

-- =============================================================== forms

/-- What a form holds of an account. -/
def PaymentAccount.inForm (a : PaymentAccount) : Form → PaymentAccount
  | .wire => a
  | .canonical => a.withoutPrivateKey

/-- An account comes back as its form shows it, with the secret or without. -/
theorem decodeAccount_inForm {a : PaymentAccount} {form : Form}
    (verified : a.payload.verify = .ok ())
    (fits : (encodeAccount a form).length < UInt64.size) :
    decodeAccount (encodeAccount a form) = .ok (a.inForm form) := by
  cases form with
  | wire => exact decodeAccount_wire verified fits
  | canonical =>
      rw [encodeAccount_canonical] at fits ⊢
      rw [← a.payload_withoutPrivateKey] at verified
      exact decodeAccount_wire verified fits

-- ============================================================== codecs

namespace Codec

/-- The codec is the coding without a limit, cut at this one. -/
structure CutAt (codec : Codec) (limit : Nat) : Prop where
  encodePayload : ∀ p form, codec.encodePayload p form
    = underLimit limit (FiatAccounts.encodePayload p form)
      (.ok (FiatAccounts.encodePayload p form))
  encodeAccount : ∀ a form, codec.encodeAccount a form
    = underLimit limit (FiatAccounts.encodeAccount a form)
      (.ok (FiatAccounts.encodeAccount a form))
  decodePayload : ∀ bytes, codec.decodePayload bytes
    = underLimit limit bytes (FiatAccounts.decodePayload bytes)
  decodeAccount : ∀ bytes, codec.decodeAccount bytes
    = underLimit limit bytes (FiatAccounts.decodeAccount bytes)

/-- The reader finds again what the writer wrote of a verified payload, and of
an account around one what the form holds of it. -/
structure Reads (reader writer : Codec) : Prop where
  payload : ∀ p form bytes, p.verify = .ok () →
    writer.encodePayload p form = .ok bytes →
    reader.decodePayload bytes = .ok p
  account : ∀ a form bytes, a.payload.verify = .ok () →
    writer.encodeAccount a form = .ok bytes →
    reader.decodeAccount bytes = .ok (a.inForm form)

/-- What the lesser codec accepts the greater one accepts, with the same
result. -/
structure Exceeds (greater lesser : Codec) : Prop where
  encodePayload : ∀ p form bytes, lesser.encodePayload p form = .ok bytes →
    greater.encodePayload p form = .ok bytes
  encodeAccount : ∀ a form bytes, lesser.encodeAccount a form = .ok bytes →
    greater.encodeAccount a form = .ok bytes
  decodePayload : ∀ bytes p, lesser.decodePayload bytes = .ok p →
    greater.decodePayload bytes = .ok p
  decodeAccount : ∀ bytes a, lesser.decodeAccount bytes = .ok a →
    greater.decodeAccount bytes = .ok a

/-- What a codec does with bytes that it has looked at comes under its limit. -/
theorem checkSize_bind {α : Type} (codec : Codec) (bytes : List UInt8)
    (next : Except AccountError α) :
    (codec.checkSize bytes >>= fun _ => next)
      = underLimit codec.config.maxWireLength bytes next := by
  unfold checkSize underLimit
  by_cases h : bytes.length ≤ codec.config.maxWireLength
  · rw [if_pos h, if_neg (Nat.not_lt.2 h)]
    rfl
  · rw [if_neg h, if_pos (Nat.not_le.1 h)]
    rfl

/-- The codec of a configuration is cut at the length that the configuration
sets. -/
theorem cutAt_of_ofConfig {config : Config} {codec : Codec}
    (h : ofConfig config = .ok codec) : codec.CutAt config.maxWireLength := by
  obtain ⟨-, hcodec⟩ := bind_unit_eq_ok.1 h
  cases hcodec
  exact ⟨fun _ _ => checkSize_bind _ _ _, fun _ _ => checkSize_bind _ _ _,
    fun _ => checkSize_bind _ _ _, fun _ => checkSize_bind _ _ _⟩

section

variable {codec codec' : Codec} {limit limit' : Nat}
  (cut : codec.CutAt limit) (cut' : codec'.CutAt limit') (hle : limit ≤ limit')
include cut cut' hle

/-- A codec with a higher limit does all that one with a lower limit does. -/
theorem CutAt.exceeds : codec'.Exceeds codec where
  encodePayload p form bytes h := by
    rw [cut.encodePayload] at h
    rw [cut'.encodePayload]
    exact underLimit_mono hle h
  encodeAccount a form bytes h := by
    rw [cut.encodeAccount] at h
    rw [cut'.encodeAccount]
    exact underLimit_mono hle h
  decodePayload bytes p h := by
    rw [cut.decodePayload] at h
    rw [cut'.decodePayload]
    exact underLimit_mono hle h
  decodeAccount bytes a h := by
    rw [cut.decodeAccount] at h
    rw [cut'.decodeAccount]
    exact underLimit_mono hle h

/-- What is written under the limit is as long when it is read. -/
theorem CutAt.reads (word : limit < UInt64.size) : codec'.Reads codec where
  payload p form bytes verified h := by
    rw [cut.encodePayload] at h
    obtain ⟨hlength, hbytes⟩ := underLimit_eq_ok.1 h
    cases hbytes
    rw [cut'.decodePayload]
    refine underLimit_eq_ok.2 ⟨Nat.le_trans hlength hle, ?_⟩
    rw [encodePayload_eq] at hlength ⊢
    exact decodePayload_of_message verified
      (Message.Payload.decode?_encode (Nat.lt_of_le_of_lt hlength word))
  account a form bytes verified h := by
    rw [cut.encodeAccount] at h
    obtain ⟨hlength, hbytes⟩ := underLimit_eq_ok.1 h
    cases hbytes
    rw [cut'.decodeAccount]
    exact underLimit_eq_ok.2 ⟨Nat.le_trans hlength hle,
      decodeAccount_inForm verified (Nat.lt_of_le_of_lt hlength word)⟩

end

end Codec

/-- The codec of a configuration is the coding without a limit, cut at the
configuration's limit on the way out and on the way in. So every codec whose
limit is not lower, itself among them, accepts all that it accepts and reads all
that it writes. Every limit that a machine can hold is below the bound. -/
theorem codec_cut_at_limit (config : Config) (codec : Codec)
    (h : Codec.ofConfig config = .ok codec) :
    codec.CutAt config.maxWireLength
      ∧ ∀ config' codec', Codec.ofConfig config' = .ok codec' →
        config.maxWireLength ≤ config'.maxWireLength →
        codec'.Exceeds codec
          ∧ (config.maxWireLength < UInt64.size → codec'.Reads codec) := by
  have cut := Codec.cutAt_of_ofConfig h
  refine ⟨cut, ?_⟩
  intro config' codec' h' hle
  have cut' := Codec.cutAt_of_ofConfig h'
  exact ⟨cut.exceeds cut' hle, cut.reads cut' hle⟩

/-- A codec under twice the usual limit reads the canonical form that one under
the usual limit has written, and one under a limit of one byte writes nothing of
a payload. -/
theorem codec_cut_at_limit_standard :
    Codec.decodeAccount ⟨{ Config.standard with maxWireLength := 131072 }⟩
        (encodeAccount .sample .canonical)
        = .ok PaymentAccount.sample.withoutPrivateKey
      ∧ Codec.encodePayload ⟨{ Config.standard with maxWireLength := 1 }⟩
        .sample .wire
        = .error (.decode
          (.oversize (encodePayload .sample .wire).length 1)) := by
  obtain ⟨cut, hgreater⟩ := codec_cut_at_limit .standard _ rfl
  obtain ⟨-, hreads⟩ := hgreater
    { Config.standard with maxWireLength := 131072 } _ rfl (by decide)
  obtain ⟨cut', -⟩ :=
    codec_cut_at_limit { Config.standard with maxWireLength := 1 } _ rfl
  constructor
  · refine (hreads (by decide)).account .sample .canonical _ rfl ?_
    rw [cut.encodeAccount]
    exact if_pos (by decide +kernel)
  · rw [cut'.encodePayload]
    exact if_neg (by decide +kernel)

end FiatAccounts

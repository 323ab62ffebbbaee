/-
Which messages are accounts: the consistent ones, and no others.

A message of an account says twice what kind of account it is, in its own choice
and in the choice of the payload inside it. It is consistent if both spell the
same path to the last level, the payload is one, and its key, if it has one,
goes by known names. The account that is made of it then has that path too, and
so has the instrument that it holds, so no account holds an instrument of
another kind.
-/
import FiatAccounts.Proofs.Account.Path
import FiatAccounts.Proofs.Codec.RoundTrip

namespace FiatAccounts

/-- What is wanted of an account's message. Its payload is accepted as `p`, and
its choices spell `path`. -/
structure Message.Account.Consistent (m : Message.Account)
    (path : List String) (p : FiatAccounts.Payload Instrument) : Prop where
  /-- The choice of the account is made on every level that it opens. -/
  chosen : m.path? = some path
  /-- The payload is there, it is one, and its own choice is the same. -/
  payload : ∃ written, m.payload = some written
    ∧ FiatAccounts.Payload.ofMessage written = .ok p
    ∧ written.path? = some path
  /-- A key goes by names that are known. -/
  known : ∀ s ∈ m.signing,
    (∃ algorithm : KeyAlgorithm, algorithm.name = s.algorithm)
      ∧ ∃ origin : AccountOrigin, origin.name = s.origin

namespace Message.Account

/-- A key of known names is the key of an account. -/
theorem signing_of_known {m : Message.Account}
    (h : ∀ s ∈ m.signing,
      (∃ algorithm : KeyAlgorithm, algorithm.name = s.algorithm)
        ∧ ∃ origin : AccountOrigin, origin.name = s.origin) :
    ∃ signing : Option SigningIdentity,
      signing.map SigningIdentity.toMessage = m.signing := by
  cases hs : m.signing with
  | none => exact ⟨none, rfl⟩
  | some s =>
      obtain ⟨⟨algorithm, halgorithm⟩, origin, horigin⟩ := h s hs
      refine ⟨some ⟨s.publicKey, s.privateKey, algorithm, origin⟩, ?_⟩
      rw [Option.map_some, SigningIdentity.toMessage, halgorithm, horigin]

/-- The message of an account is consistent if its payload obeys every rule. -/
theorem consistent_toMessage {a : PaymentAccount}
    (verified : a.payload.verify = .ok ()) :
    a.toMessage.Consistent a.path a.payload where
  chosen := a.path_arm
  payload := by
    refine ⟨a.payload.toMessage, rfl, ?_, ?_⟩
    · exact FiatAccounts.Payload.ofMessage_eq_ok.2 ⟨rfl, verified⟩
    · rw [FiatAccounts.Payload.path_toMessage, a.path_payload]
  known := by
    intro s hs
    obtain ⟨signing, -, rfl⟩ := Option.map_eq_some_iff.1 hs
    exact ⟨⟨signing.algorithm, rfl⟩, signing.origin, rfl⟩

/-- A consistent message is the message of the account that is put together from
its record and its payload. -/
theorem Consistent.exists_account {m : Message.Account} {path : List String}
    {p : FiatAccounts.Payload Instrument} (h : m.Consistent path p) :
    ∃ a : PaymentAccount, a.toMessage = m ∧ a.payload = p := by
  obtain ⟨written, hpayload, hp, hwritten⟩ := h.payload
  obtain ⟨signing, hsigning⟩ := signing_of_known h.known
  let a := PaymentAccount.ofPayload m.id m.creationDate m.name p signing
  have hrecord := PaymentAccount.record_eq_of_ofPayload (rfl : a = a)
  have ha : a.payload = p := congrArg FiatAccounts.Account.payload hrecord
  have hsent : written = p.toMessage :=
    (FiatAccounts.Payload.ofMessage_eq_ok.1 hp).1.symm
  -- The payload spells the path of the account, so the choice does too, and
  -- then the choice is the account's own.
  have hpath : a.path = path := by
    rw [hsent, FiatAccounts.Payload.path_toMessage, ← ha,
      a.path_payload] at hwritten
    exact Option.some.inj hwritten
  obtain ⟨arm, harm, hspelled⟩ := Option.bind_eq_some_iff.1 h.chosen
  have hdeclared : m.rail = .ok a.rail := by
    refine rail_eq_ok.2 ⟨arm, harm, AccountArm.rail_eq_iff.2 ?_⟩
    rw [hspelled, hpath]
  refine ⟨a, ?_, ha⟩
  unfold PaymentAccount.toMessage
  rw [← PaymentAccount.arm_of_declares hdeclared, ha, ← hsent, ← hpayload,
    PaymentAccount.id, PaymentAccount.creationDate, PaymentAccount.name,
    PaymentAccount.signing, hrecord, hsigning]

/-- A message is the message of no more than one consistent reading. -/
theorem Consistent.unique {m : Message.Account} {path path' : List String}
    {p p' : FiatAccounts.Payload Instrument} (h : m.Consistent path p)
    (h' : m.Consistent path' p') : path = path' ∧ p = p' := by
  obtain ⟨written, hpayload, hp, -⟩ := h.payload
  obtain ⟨written', hpayload', hp', -⟩ := h'.payload
  rw [hpayload] at hpayload'
  cases hpayload'
  rw [hp] at hp'
  have hpath := h'.chosen
  rw [h.chosen] at hpath
  exact ⟨Option.some.inj hpath, Except.ok.inj hp'⟩

end Message.Account

/-- A message is accepted exactly when it is consistent. The account that it is
accepted as has the path that the message spells, and so has the instrument that
the account holds; its payload and its rail are the payload's, and its id, its
date and its name are those of the message. -/
theorem ofMessage_accepts_iff_consistent (m : Message.Account) :
    ((∃ a, PaymentAccount.ofMessage m = .ok a)
        ↔ ∃ path p, m.Consistent path p)
      ∧ ∀ a path p, PaymentAccount.ofMessage m = .ok a →
        m.Consistent path p →
          a.path = path ∧ a.payload.instrument.path = path
            ∧ a.rail = p.rail ∧ a.payload = p
            ∧ a.id = m.id ∧ a.creationDate = m.creationDate
            ∧ a.name = m.name := by
  refine ⟨⟨?_, ?_⟩, ?_⟩
  · rintro ⟨a, ha⟩
    obtain ⟨rfl, verified⟩ := PaymentAccount.ofMessage_eq_ok.1 ha
    exact ⟨_, _, Message.Account.consistent_toMessage verified⟩
  · rintro ⟨path, p, h⟩
    obtain ⟨a, ha, rfl⟩ := h.exists_account
    obtain ⟨written, -, hp, -⟩ := h.payload
    have verified := (Payload.ofMessage_eq_ok.1 hp).2
    exact ⟨a, PaymentAccount.ofMessage_eq_ok.2 ⟨ha, verified⟩⟩
  · intro a path p ha h
    obtain ⟨rfl, verified⟩ := PaymentAccount.ofMessage_eq_ok.1 ha
    have hown := Message.Account.consistent_toMessage verified
    obtain ⟨rfl, rfl⟩ := hown.unique h
    exact ⟨rfl, a.path_payload, rfl, rfl, rfl, rfl, rfl⟩

/-- `Message.Account.sample` with a choice that is not its payload's. -/
def Message.Account.mislabelled : Message.Account :=
  { Message.Account.sample with
    arm := some (.countryBased (some (.bank (some .domesticWireTransfer)))) }

/-- A sample is accepted with its path and its payload. With another choice
around the same payload it is no account. -/
theorem ofMessage_accepts_sample :
    Message.Account.sample.Consistent
        ["CountryBased", "Bank", "AchTransfer"] Payload.sample
      ∧ (∃ a, PaymentAccount.ofMessage .sample = .ok a
        ∧ a.path = ["CountryBased", "Bank", "AchTransfer"]
        ∧ a.payload = Payload.sample)
      ∧ ¬∃ a, PaymentAccount.ofMessage .mislabelled = .ok a := by
  have hsample : Message.Account.sample.Consistent
      ["CountryBased", "Bank", "AchTransfer"] Payload.sample :=
    { chosen := rfl
      payload := ⟨_, rfl, rfl, rfl⟩
      known := by
        intro s hs
        cases hs
        exact ⟨⟨.ed25519, rfl⟩, .legacyImport, rfl⟩ }
  have haccepted := ofMessage_accepts_iff_consistent .sample
  obtain ⟨a, ha⟩ := haccepted.1.2 ⟨_, _, hsample⟩
  have hshape := haccepted.2 a _ _ ha hsample
  refine ⟨hsample, ⟨a, ha, hshape.1, hshape.2.2.2.1⟩, ?_⟩
  rw [(ofMessage_accepts_iff_consistent .mislabelled).1]
  rintro ⟨path, p, h⟩
  obtain ⟨written, hpayload, -, hpath⟩ := h.payload
  cases hpayload
  have hchosen := h.chosen
  rw [← hpath] at hchosen
  revert hchosen
  decide

end FiatAccounts

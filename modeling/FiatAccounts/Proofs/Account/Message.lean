/-
An account comes from exactly one message: its own.

An account does not hold the choice that its message makes. It need not: the
choice names a rail, the rail of the payload has to be the same one, and no two
choices name the same rail. So the choice that was written is the one that the
account's own message makes.
-/
import FiatAccounts.Account.Message
import FiatAccounts.Proofs.Account.Record
import FiatAccounts.Proofs.Payload.Message

namespace FiatAccounts

-- =================================================== choices and rails

/-- The bank account that a rail stands for. -/
def Message.BankAccountArm.ofRail? : Rail → Option BankAccountArm
  | .achTransfer => some .achTransfer
  | .nationalBank => some .nationalBank
  | .cashDeposit => some .cashDeposit
  | .sameBank => some .sameBank
  | .domesticWireTransfer => some .domesticWireTransfer
  | _ => none

/-- The account bound to a country that a rail stands for. -/
def Message.CountryAccountArm.ofRail? (rail : Rail) :
    Option CountryAccountArm :=
  match BankAccountArm.ofRail? rail with
  | some arm => some (.bank (some arm))
  | none =>
    match rail with
    | .amazonGiftCard => some .amazonGiftCard
    | .swish => some .swish
    | .sepa => some .sepa
    | .sepaInstant => some .sepaInstant
    | .bizum => some .bizum
    | .f2f => some .f2f
    | .pix => some .pix
    | .promptPay => some .promptPay
    | .strike => some .strike
    | .upi => some .upi
    | .wise => some .wise
    | .wiseUsd => some .wiseUsd
    | .moneyGram => some .moneyGram
    | .moneyBeam => some .moneyBeam
    | .pin4 => some .pin4
    | .swift => some .swift
    | _ => none

/-- The account that a rail stands for. Some rails stand for none. -/
def Message.AccountArm.ofRail? (rail : Rail) : Option AccountArm :=
  match CountryAccountArm.ofRail? rail with
  | some arm => some (.countryBased (some arm))
  | none =>
    match rail with
    | .zelle => some .zelle
    | .usPostalMoneyOrder => some .usPostalMoneyOrder
    | .payId => some .payId
    | .interacETransfer => some .interacETransfer
    | .halCash => some .halCash
    | .fasterPayments => some .fasterPayments
    | .sbp => some .sbp
    | .cashByMail => some .cashByMail
    | .revolut => some .revolut
    | .uphold => some .uphold
    | .custom => some .userDefinedFiat
    | _ => none

namespace Message

/-- A choice among the bank accounts is found again by its rail. -/
theorem BankAccountArm.ofRail?_rail (arm : BankAccountArm) :
    ofRail? arm.rail = some arm := by
  cases arm <;> rfl

/-- A choice among the country accounts is found again by its rail. It may have
none, because the choice of a bank account can be open. -/
theorem CountryAccountArm.ofRail?_of_rail {arm : CountryAccountArm}
    {rail : Rail} (h : arm.rail = .ok rail) : ofRail? rail = some arm := by
  cases arm
  case bank arm =>
    obtain ⟨arm, harm, rfl⟩ := map_eq_ok.1 h
    unfold ofRail?
    rw [BankAccountArm.ofRail?_rail, chosen_eq_ok.1 harm]
  all_goals
    cases h
    rfl

/-- A choice is known by the rail that it names. -/
theorem AccountArm.ofRail?_of_rail {arm : AccountArm} {rail : Rail}
    (h : arm.rail = .ok rail) : ofRail? rail = some arm := by
  cases arm
  case countryBased arm =>
    obtain ⟨arm, harm, hrail⟩ := bind_eq_ok.1 h
    unfold ofRail?
    rw [CountryAccountArm.ofRail?_of_rail hrail, chosen_eq_ok.1 harm]
  all_goals
    cases h
    rfl

end Message

/-- The choice of an account names the rail of its payload. -/
theorem PaymentAccount.rail_arm (a : PaymentAccount) :
    a.arm.rail = .ok a.rail := by
  cases a
  case countryBased c =>
    cases c
    case bank b => cases b <;> rfl
    all_goals rfl
  all_goals rfl

-- ================================================================ keys

/-- A key comes from its own message. -/
theorem SigningIdentity.ofMessage_eq_ok {m : Message.Signing}
    {s : SigningIdentity} : ofMessage m = .ok s ↔ s.toMessage = m := by
  obtain ⟨publicKey, privateKey, algorithm, origin⟩ := m
  unfold ofMessage
  constructor
  · intro h
    cases halgorithm : KeyAlgorithm.ofName? algorithm with
    | none => simp [halgorithm] at h
    | some known =>
        cases horigin : AccountOrigin.ofName? origin with
        | none => simp [halgorithm, horigin] at h
        | some known' =>
            simp only [halgorithm, horigin] at h
            cases h
            rw [toMessage, KeyAlgorithm.ofName?_eq_some.1 halgorithm,
              AccountOrigin.ofName?_eq_some.1 horigin]
  · intro h
    cases h
    rw [KeyAlgorithm.ofName?_eq_some.2 rfl, AccountOrigin.ofName?_eq_some.2 rfl]

/-- No two keys have one message. -/
theorem SigningIdentity.toMessage_injective :
    Function.Injective SigningIdentity.toMessage := by
  intro s t h
  have hs := ofMessage_eq_ok.2 (rfl : s.toMessage = s.toMessage)
  have ht := ofMessage_eq_ok.2 (rfl : t.toMessage = t.toMessage)
  rw [h, ht] at hs
  exact (Except.ok.inj hs).symm

/-- The key that is read is the one whose message stands there, and where none
stands none is read. -/
theorem Message.Account.signing?_eq_ok {m : Message.Account}
    {signing : Option SigningIdentity} :
    m.signing? = .ok signing
      ↔ signing.map SigningIdentity.toMessage = m.signing := by
  unfold signing?
  cases m.signing with
  | none => cases signing <;> simp
  | some s =>
      simp only [map_eq_ok, SigningIdentity.ofMessage_eq_ok]
      constructor
      · intro h
        obtain ⟨s, rfl, rfl⟩ := h
        rfl
      · intro h
        cases signing with
        | none => cases h
        | some s' => exact ⟨s', Option.some.inj h, rfl⟩

/-- The payload that is read is the one whose message stands there, and it obeys
every rule. -/
theorem Message.Account.payload?_eq_ok {m : Message.Account}
    {p : FiatAccounts.Payload Instrument} :
    m.payload? = .ok p
      ↔ m.payload = some p.toMessage ∧ p.verify = .ok () := by
  unfold payload?
  cases m.payload with
  | none => simp
  | some payload =>
      simp only [FiatAccounts.Payload.ofMessage_eq_ok, Option.some.injEq]
      rw [eq_comm]

/-- A message that declares a rail makes its choice. -/
theorem Message.Account.rail_eq_ok {m : Message.Account} {rail : Rail} :
    m.rail = .ok rail ↔ ∃ arm, m.arm = some arm ∧ arm.rail = .ok rail := by
  unfold Account.rail
  simp only [bind_eq_ok, chosen_eq_ok]

-- ============================================================= accounts

namespace PaymentAccount

/-- An account's message declares the account's rail. -/
theorem rail_toMessage (a : PaymentAccount) :
    a.toMessage.rail = .ok a.rail :=
  Message.Account.rail_eq_ok.2 ⟨a.arm, rfl, a.rail_arm⟩

/-- A message that declares the rail of an account makes the account's own
choice. -/
theorem arm_of_declares {m : Message.Account} {a : PaymentAccount}
    (h : m.rail = .ok a.rail) : m.arm = some a.arm := by
  obtain ⟨arm, harm, hrail⟩ := Message.Account.rail_eq_ok.1 h
  have hwritten := Message.AccountArm.ofRail?_of_rail hrail
  have hown := Message.AccountArm.ofRail?_of_rail a.rail_arm
  rw [harm, ← hwritten, hown]

/-- An account that is put together from five values shows these five. -/
theorem record_eq_of_ofPayload {id : String} {creationDate : Millis}
    {name : String} {payload : Payload Instrument}
    {signing : Option SigningIdentity} {a : PaymentAccount}
    (h : ofPayload id creationDate name payload signing = a) :
    a.record = { id, creationDate, name, payload, signing } := by
  rw [← h]
  exact record_ofRecord _

/-- An account comes from its own message, and it does so if its payload obeys
every rule. -/
theorem ofMessage_eq_ok {m : Message.Account} {a : PaymentAccount} :
    ofMessage m = .ok a ↔ a.toMessage = m ∧ a.payload.verify = .ok () := by
  unfold ofMessage
  simp only [bind_eq_ok]
  constructor
  · intro h
    obtain ⟨declared, hdeclared, p, hpayload, h⟩ := h
    split at h
    · cases h
    · rename_i hsame
      obtain ⟨signing, hsigning, hof⟩ := bind_eq_ok.1 h
      have hrecord := record_eq_of_ofPayload (Except.ok.inj hof)
      have hp : a.payload = p := congrArg Account.payload hrecord
      have hs : a.signing = signing := congrArg Account.signing hrecord
      -- the rails agree, so the declared one is the account's
      rw [← Decidable.not_not.1 hsame, ← hp] at hdeclared
      rw [← hp] at hpayload
      rw [← hs] at hsigning
      obtain ⟨hpayload, hverify⟩ := Message.Account.payload?_eq_ok.1 hpayload
      have harm := arm_of_declares hdeclared
      have hsigning := Message.Account.signing?_eq_ok.1 hsigning
      refine ⟨?_, hverify⟩
      unfold toMessage
      rw [hsigning, ← hpayload, ← harm, id, creationDate, name, hrecord]
  · intro h
    obtain ⟨rfl, hverify⟩ := h
    refine ⟨a.rail, a.rail_toMessage, a.payload, ?_, ?_⟩
    · exact Message.Account.payload?_eq_ok.2 ⟨rfl, hverify⟩
    · have hsame : ¬a.payload.rail ≠ a.rail := fun h => h rfl
      rw [if_neg hsame, bind_eq_ok]
      refine ⟨a.signing, Message.Account.signing?_eq_ok.2 rfl, ?_⟩
      exact congrArg Except.ok a.ofRecord_record

/-- Accounts have messages of their own, verified or not. -/
theorem toMessage_injective :
    Function.Injective (toMessage : PaymentAccount → Message.Account) := by
  intro a b h
  unfold toMessage at h
  injection h with hid hdate hname hpayload hsigning
  apply ext_record
  have hp : a.payload = b.payload :=
    Payload.toMessage_injective (Option.some.inj hpayload)
  have hs : a.signing = b.signing :=
    Option.map_injective SigningIdentity.toMessage_injective hsigning
  calc a.record
      = ⟨a.id, a.creationDate, a.name, a.payload, a.signing⟩ := rfl
    _ = ⟨b.id, b.creationDate, b.name, b.payload, b.signing⟩ := by
        rw [hid, hdate, hname, hp, hs]
    _ = b.record := rfl

-- ========================================================= the secret

/-- The choice shows the rail and nothing else of an account. -/
theorem arm_eq_of_rail_eq {a b : PaymentAccount} (h : a.rail = b.rail) :
    a.arm = b.arm := by
  have hdeclares : b.toMessage.rail = .ok a.rail := by
    rw [rail_toMessage, h]
  exact (Option.some.inj (arm_of_declares hdeclares)).symm

/-- The secret can be left out of an account or of its message. -/
theorem toMessage_withoutPrivateKey (a : PaymentAccount) :
    a.withoutPrivateKey.toMessage = a.toMessage.withoutPrivateKey := by
  have hrecord := a.record_withoutPrivateKey
  have harm : a.withoutPrivateKey.arm = a.arm :=
    arm_eq_of_rail_eq a.rail_withoutPrivateKey
  have hsigning :
      a.record.withoutPrivateKey.signing.map SigningIdentity.toMessage
        = a.toMessage.withoutPrivateKey.signing := by
    unfold Account.withoutPrivateKey Message.Account.withoutPrivateKey
    unfold toMessage signing
    rw [Option.map_map, Option.map_map]
    rfl
  unfold toMessage
  rw [harm, id, creationDate, name, payload, signing, hrecord, hsigning]
  rfl

end PaymentAccount

end FiatAccounts

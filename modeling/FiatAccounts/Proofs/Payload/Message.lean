/-
A payload comes from exactly one message: its own.

`Payload.ofMessage_eq_ok` says so in both directions. Every verified payload is
the payload of its message, and a message that is a payload is the message of
it, to the last field. Nothing is lost on the way and nothing is rewritten.

What could be lost is what a payload does not hold as it was written. The kind
of a bank account is held as a value and not as its name, but names and kinds
pair off. The country of an instrument that knows only one country is not held
at all, but a message with another is refused. And a routing number is looked at
twice, first of all and again in its turn, which changes the order of refusals
and not what is refused.
-/
import FiatAccounts.Payload.Message
import FiatAccounts.Proofs.Names
import FiatAccounts.Proofs.Outcome

namespace FiatAccounts

-- ======================================================== verification

/-- The shared rules of the transfers of the United States look at the routing
number in its turn. -/
theorem UsTransfer.checkRoutingNr_of_verifyShared {variant : String}
    {d : UsTransfer} (h : d.verifyShared variant = .ok ()) :
    d.checkRoutingNr = .ok () := by
  unfold verifyShared at h
  simp only [bind_eq_ok, Check.raise_eq_ok] at h
  obtain ⟨_, -, _, -, _, -, _, -, _, -, _, -, _, hrouting, -⟩ := h
  exact Check.raise_eq_ok.1 hrouting

/-- What is looked at first is looked at again among the instrument's own
rules. -/
theorem BankInstrument.checkFirst_of_verifyFields {b : BankInstrument}
    (h : b.verifyFields = .ok ()) : b.checkFirst = .ok () := by
  cases b with
  | achTransfer d =>
      exact d.checkRoutingNr_of_verifyShared (bind_unit_eq_ok.1 h).1
  | domesticWireTransfer d =>
      exact d.checkRoutingNr_of_verifyShared (bind_unit_eq_ok.1 h).1
  | nationalBank _ => rfl
  | cashDeposit _ => rfl
  | sameBank _ => rfl

/-- So it is for every instrument, since all others look at nothing first. -/
theorem Instrument.checkFirst_of_verifyFields {i : Instrument}
    (h : i.verifyFields = .ok ()) : i.checkFirst = .ok () := by
  cases i with
  | countryBased c =>
      cases c with
      | bank b => exact b.checkFirst_of_verifyFields h
      | _ => rfl
  | _ => rfl

namespace Payload

/-- A payload is verified by its core, by its profile and by the rules of its
instrument. -/
theorem verify_eq_ok {p : Payload Instrument} :
    p.verify = .ok () ↔ p.toPayloadCore.check = .ok ()
      ∧ checkProfile p.instrument.profile = .ok ()
      ∧ p.instrument.verifyFields = .ok () := by
  unfold verify
  simp only [bind_unit_eq_ok, Check.raise_eq_ok]

/-- A payload is made of its parts exactly when it obeys every rule. -/
theorem create_eq_ok {id : String} {salt : List UInt8}
    {instrument : Instrument} {p : Payload Instrument} :
    create id salt instrument = .ok p
      ↔ p = { id, salt, instrument } ∧ p.verify = .ok () := by
  unfold create
  simp only [bind_unit_eq_ok, Check.raise_eq_ok]
  constructor
  · intro h
    obtain ⟨-, hverify, hp⟩ := h
    cases hp
    exact ⟨rfl, hverify⟩
  · intro h
    obtain ⟨rfl, hverify⟩ := h
    have hfields := (verify_eq_ok.1 hverify).2.2
    exact ⟨Instrument.checkFirst_of_verifyFields hfields, hverify, rfl⟩

/-- Parts make a payload exactly if what they would make obeys every rule. -/
theorem exists_create_iff {id : String} {salt : List UInt8}
    {instrument : Instrument} :
    (∃ p, create id salt instrument = .ok p)
      ↔ verify ⟨⟨id, salt⟩, instrument⟩ = .ok () := by
  simp only [create_eq_ok, exists_eq_left]

end Payload

-- ============================================== what a message leaves open

/-- A kind of account is read from its own name and from no other. -/
theorem BankAccountType.ofMessage_eq_ok {name : Option String}
    {kind : Option BankAccountType} :
    ofMessage name = .ok kind ↔ kind.map BankAccountType.name = name := by
  constructor
  · intro h
    cases name with
    | none => cases h; rfl
    | some name =>
        unfold ofMessage at h
        cases hname : ofName? name with
        | none => simp [hname] at h
        | some kind' =>
            simp only [hname] at h
            cases h
            rw [Option.map_some, ofName?_eq_some.1 hname]
  · intro h
    subst h
    cases kind with
    | none => rfl
    | some kind => simp [ofMessage, ofName?_eq_some.2 rfl]

/-- A choice that is asked for is there. -/
theorem Message.chosen_eq_ok {α : Type} {level : String} {choice : Option α}
    {arm : α} : chosen level choice = .ok arm ↔ choice = some arm := by
  cases choice <;> simp [chosen]

-- ================================================== the three levels

/-- A bank account comes from its own message, inside the message of its
country. -/
theorem BankInstrument.ofMessage_eq_ok {country : String} {m : Message.Bank}
    {b : BankInstrument} :
    ofMessage country m = .ok b
      ↔ b.details.country = country ∧ b.toMessage = m := by
  unfold ofMessage
  simp only [bind_eq_ok, Message.chosen_eq_ok, BankAccountType.ofMessage_eq_ok]
  constructor
  · intro h
    obtain ⟨arm, harm, kind, hkind, h⟩ := h
    obtain ⟨holderName, holderId, bankName, bankId, branchId, accountNr,
      accountType, nationalAccountId, currency, choice⟩ := m
    cases harm
    cases hkind
    cases arm <;> cases h <;> exact ⟨rfl, rfl⟩
  · intro h
    obtain ⟨rfl, rfl⟩ := h
    refine ⟨b.arm, rfl, b.details.accountType, rfl, ?_⟩
    cases b <;> rfl

/-- An instrument of a country comes from its own message. The country has to be
compared where the instrument does not hold it. -/
theorem CountryInstrument.ofMessage_eq_ok {m : Message.CountryBased}
    {c : CountryInstrument} :
    ofMessage m = .ok c ∧ m.country = c.profile.country.getD ""
      ↔ c.toMessage = m := by
  unfold ofMessage
  simp only [bind_eq_ok, Message.chosen_eq_ok]
  constructor
  · intro h
    obtain ⟨⟨arm, harm, h⟩, hcountry⟩ := h
    obtain ⟨country, choice⟩ := m
    cases harm
    cases arm
    case bank m =>
      obtain ⟨b, hb, rfl⟩ := map_eq_ok.1 h
      obtain ⟨-, rfl⟩ := BankInstrument.ofMessage_eq_ok.1 hb
      exact congrArg (Message.CountryBased.mk · _) hcountry.symm
    all_goals
      cases h
      exact congrArg (Message.CountryBased.mk · _) hcountry.symm
  · intro h
    subst h
    refine ⟨⟨c.arm, rfl, ?_⟩, rfl⟩
    cases c
    case bank b =>
      refine map_eq_ok.2 ⟨b, ?_, rfl⟩
      rw [BankInstrument.ofMessage_eq_ok]
      refine ⟨?_, rfl⟩
      cases b <;> rfl
    all_goals rfl

/-- The country is compared after the payload is made, against the whole
message. -/
theorem Instrument.ofMessage_eq_ok {m : Message.Payload}
    {p : Payload Instrument} :
    ofMessage m = .ok p.instrument ∧ p.checkWrittenCountry m = .ok ()
      ↔ some p.instrument.arm = m.arm := by
  unfold ofMessage Payload.checkWrittenCountry
  simp only [bind_eq_ok, Message.chosen_eq_ok]
  constructor
  · intro h
    obtain ⟨⟨arm, harm, h⟩, hcountry⟩ := h
    obtain ⟨⟨id, salt⟩, instrument⟩ := p
    rw [harm] at hcountry ⊢
    cases arm
    -- only here is there a country to compare
    case countryBased m =>
      obtain ⟨c, hc, rfl⟩ := map_eq_ok.1 h
      have hwritten : m.country = c.profile.country.getD "" :=
        Check.equals_eq_ok.1 hcountry
      rw [← CountryInstrument.ofMessage_eq_ok.1 ⟨hc, hwritten⟩]
      rfl
    all_goals
      cases h
      rfl
  · intro h
    rw [← h]
    obtain ⟨⟨id, salt⟩, instrument⟩ := p
    cases instrument
    case countryBased c =>
      have hc := (CountryInstrument.ofMessage_eq_ok (c := c)).2 rfl
      refine ⟨⟨_, rfl, map_eq_ok.2 ⟨c, hc.1, rfl⟩⟩, ?_⟩
      exact Check.equals_eq_ok.2 hc.2
    all_goals exact ⟨⟨_, rfl, rfl⟩, rfl⟩

-- ============================================================= payloads

namespace Payload

/-- A payload comes from its own message, and it does so if it obeys every
rule. -/
theorem ofMessage_eq_ok {m : Message.Payload} {p : Payload Instrument} :
    ofMessage m = .ok p ↔ p.toMessage = m ∧ p.verify = .ok () := by
  unfold ofMessage
  simp only [bind_eq_ok, create_eq_ok]
  constructor
  · intro h
    obtain ⟨instrument, hinstrument, q, ⟨rfl, hverify⟩, _, hcountry, hp⟩ := h
    cases hp
    have harm := Instrument.ofMessage_eq_ok.1
      ⟨hinstrument, Check.raise_eq_ok.1 hcountry⟩
    refine ⟨?_, hverify⟩
    exact congrArg (Message.Payload.mk m.id m.salt ·) harm
  · intro h
    obtain ⟨rfl, hverify⟩ := h
    have ⟨hinstrument, hcountry⟩ :=
      (Instrument.ofMessage_eq_ok (m := p.toMessage) (p := p)).2 rfl
    refine ⟨p.instrument, hinstrument, p, ⟨rfl, hverify⟩, (), ?_, rfl⟩
    exact Check.raise_eq_ok.2 hcountry

/-- Payloads have messages of their own, verified or not. -/
theorem toMessage_injective :
    Function.Injective (toMessage : Payload Instrument → Message.Payload) := by
  intro p q h
  have hp := (Instrument.ofMessage_eq_ok (m := p.toMessage) (p := p)).2 rfl
  have hq := (Instrument.ofMessage_eq_ok (m := q.toMessage) (p := q)).2 rfl
  rw [h] at hp
  have hinstrument : p.instrument = q.instrument :=
    Except.ok.inj (hp.1.symm.trans hq.1)
  obtain ⟨⟨id, salt⟩, instrument⟩ := p
  obtain ⟨⟨id', salt'⟩, instrument'⟩ := q
  injection h with hid hsalt
  cases hid
  cases hsalt
  cases hinstrument
  rfl

end Payload

end FiatAccounts

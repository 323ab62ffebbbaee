/-
The levels of an account hold no more than its record.

`record` and `ofRecord` are inverse at each level. An account is therefore known
by its record: two accounts with the same id, date, name, payload and key are
the same account at the same level, and any change to a record is a change to
one account.
-/
import FiatAccounts.Account.Basic

namespace FiatAccounts

-- ============================================================= records

namespace Account

variable {ι : Type}

/-- The record without the secret half of its key, if it has a key. -/
def withoutPrivateKey (a : Account ι) : Account ι :=
  { a with signing := a.signing.map SigningIdentity.withoutPrivateKey }

/-- What is left of a key is its public half, its algorithm and its origin. -/
theorem withoutPrivateKey_eq_iff {a b : Account ι} :
    a.withoutPrivateKey = b.withoutPrivateKey
      ↔ a.id = b.id ∧ a.creationDate = b.creationDate ∧ a.name = b.name
        ∧ a.payload = b.payload
        ∧ a.signing.map (fun s => (s.publicKey, s.algorithm, s.origin))
          = b.signing.map (fun s => (s.publicKey, s.algorithm, s.origin)) := by
  have hkey (s t : Option SigningIdentity) :
      s.map SigningIdentity.withoutPrivateKey
          = t.map SigningIdentity.withoutPrivateKey
        ↔ s.map (fun s => (s.publicKey, s.algorithm, s.origin))
          = t.map (fun s => (s.publicKey, s.algorithm, s.origin)) := by
    cases s <;> cases t <;> simp [SigningIdentity.withoutPrivateKey]
  rw [← hkey]
  unfold withoutPrivateKey
  rw [mk.injEq]

end Account

-- ==================================================== the three levels

namespace BankAccount

/-- A bank account is put together again from its record. -/
@[simp] theorem ofRecord_record (b : BankAccount) :
    ofRecord b.record = b := by
  cases b <;> rfl

/-- Any record of a bank transfer is the record of a bank account. -/
@[simp] theorem record_ofRecord (a : Account BankInstrument) :
    (ofRecord a).record = a := by
  obtain ⟨id, creationDate, name, ⟨core, instrument⟩, signing⟩ := a
  cases instrument <;> rfl

end BankAccount

namespace CountryAccount

/-- A country account is put together again from its record, the bank account
inside it first. -/
@[simp] theorem ofRecord_record (c : CountryAccount) :
    ofRecord c.record = c := by
  cases c
  case bank b => exact congrArg bank b.ofRecord_record
  all_goals rfl

/-- Any record with an instrument of a country is the record of an account. -/
@[simp] theorem record_ofRecord (a : Account CountryInstrument) :
    (ofRecord a).record = a := by
  obtain ⟨id, creationDate, name, ⟨core, instrument⟩, signing⟩ := a
  cases instrument
  case bank b =>
    exact congrArg (Account.map CountryInstrument.bank)
      (BankAccount.record_ofRecord _)
  all_goals rfl

end CountryAccount

namespace PaymentAccount

/-- An account is put together again from its record, through all three
levels. -/
@[simp] theorem ofRecord_record (a : PaymentAccount) :
    ofRecord a.record = a := by
  cases a
  case countryBased c => exact congrArg countryBased c.ofRecord_record
  all_goals rfl

/-- Any record is the record of an account. -/
@[simp] theorem record_ofRecord (a : Account Instrument) :
    (ofRecord a).record = a := by
  obtain ⟨id, creationDate, name, ⟨core, instrument⟩, signing⟩ := a
  cases instrument
  case countryBased c =>
    exact congrArg (Account.map Instrument.countryBased)
      (CountryAccount.record_ofRecord _)
  all_goals rfl

/-- An account is known by its record. -/
theorem ext_record {a b : PaymentAccount} (h : a.record = b.record) :
    a = b := by
  rw [← ofRecord_record a, h, ofRecord_record]

-- ========================================================= the secret

/-- The same account without the secret half of its key, if it has a key. -/
def withoutPrivateKey (a : PaymentAccount) : PaymentAccount :=
  ofRecord a.record.withoutPrivateKey

/-- The secret is left out of an account by leaving it out of the record. -/
theorem record_withoutPrivateKey (a : PaymentAccount) :
    a.withoutPrivateKey.record = a.record.withoutPrivateKey :=
  record_ofRecord _

/-- A payload has no part in the secret. -/
@[simp] theorem payload_withoutPrivateKey (a : PaymentAccount) :
    a.withoutPrivateKey.payload = a.payload := by
  rw [payload, record_withoutPrivateKey]
  rfl

@[simp] theorem rail_withoutPrivateKey (a : PaymentAccount) :
    a.withoutPrivateKey.rail = a.rail :=
  congrArg Payload.rail a.payload_withoutPrivateKey

/-- Two accounts differ in nothing but the secret if they agree in all five
values, a key being known by its public half, its algorithm and its origin. -/
theorem withoutPrivateKey_eq_iff {a b : PaymentAccount} :
    a.withoutPrivateKey = b.withoutPrivateKey
      ↔ a.id = b.id ∧ a.creationDate = b.creationDate ∧ a.name = b.name
        ∧ a.payload = b.payload
        ∧ a.signing.map (fun s => (s.publicKey, s.algorithm, s.origin))
          = b.signing.map (fun s => (s.publicKey, s.algorithm, s.origin)) := by
  refine Iff.trans ?_ Account.withoutPrivateKey_eq_iff
  rw [← record_withoutPrivateKey, ← record_withoutPrivateKey]
  exact ⟨congrArg record, ext_record⟩

end PaymentAccount

end FiatAccounts

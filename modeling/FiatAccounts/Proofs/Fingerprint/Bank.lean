/-
What stands in the fingerprint of a bank account.

It is the method id, the country and the values of the fields that the country
requires, in an order of its own that is not the catalog's. A field that is
there without being required adds nothing, so it can change without the
fingerprint. What is required is there, because the account is verified, and the
one exception is a field that is never there.
-/
import FiatAccounts.Proofs.Fingerprint.Rule
import FiatAccounts.Proofs.Instrument.Bank
import FiatAccounts.Proofs.Payload.Verified

namespace FiatAccounts

open Fingerprint

-- ============================================================ the order

/-- The fields of a bank account in the order of its fingerprint. -/
def Fingerprint.bankOrder : List BankField :=
  [.bankName, .bankId, .branchId, .accountNr, .accountType, .holderId,
   .nationalAccountId]

theorem Fingerprint.bankParts_eq :
    bankParts = bankOrder.map fun field => .field field.name := rfl

/-- What a field adds to a fingerprint: its value if the country requires the
field, and nothing otherwise. -/
def BankDetails.contribution (d : BankDetails) (field : BankField) : String :=
  if field.isRequired d.country then (d.value? field).getD "" else ""

namespace BankInstrument

/-- All kinds of bank account are identified by their details. -/
theorem identity_profile (b : BankInstrument) :
    b.profile.identity = b.details.identity := by
  cases b <;> rfl

theorem country_profile (b : BankInstrument) :
    b.profile.country = some b.details.country := by
  cases b <;> rfl

theorem bank_profile (b : BankInstrument) :
    b.profile.bank = some b.details := by
  cases b <;> rfl

/-- The rule of every bank account is the same but for the rail. -/
theorem rule_eq (b : BankInstrument) :
    rule? b.profile.rail
      = some ⟨b.profile.rail, .bank, .methodAndCountry, bankParts⟩ := by
  cases b <;> rfl

/-- What the rule of a bank account gets from it. -/
theorem text_rule (b : BankInstrument) :
    Rule.text ⟨b.profile.rail, .bank, .methodAndCountry, bankParts⟩ b.profile
      = b.details.country
        ++ String.join (bankOrder.map b.details.contribution) := by
  have hparts (field : BankField) :
      Part.text b.profile (.field field.name)
        = b.details.contribution field := by
    rw [Part.text_field, b.identity_profile, b.details.lookup_identity]
    unfold BankDetails.contribution
    split <;> rfl
  unfold Rule.text
  rw [if_pos rfl, b.country_profile, bankParts_eq, List.map_map]
  simp only [Function.comp_def, hparts, Option.getD_some]

end BankInstrument

/-- Bank accounts of one country that agree on what it requires contribute the
same. -/
theorem BankDetails.contribution_congr {d e : BankDetails}
    (country : e.country = d.country)
    (required : ∀ field, field.isRequired d.country = true
      → e.value? field = d.value? field) :
    e.contribution = d.contribution := by
  funext field
  unfold contribution
  rw [country]
  split
  case isTrue h => rw [required field h]
  case isFalse => rfl

-- ====================================================== the whole layout

/-- The fingerprint of a bank account is its method id, its country and what
each field contributes, in the order of the rule. -/
theorem Payload.fingerprint_bank_eq {p : Payload Instrument}
    {b : BankInstrument} (bank : p.instrument = .countryBased (.bank b)) :
    p.fingerprint
      = Text.Utf8.encode (p.rail.methodId ++ (b.details.country
        ++ String.join (bankOrder.map b.details.contribution))) := by
  have hprofile : p.instrument.profile = b.profile := by
    rw [bank]
    rfl
  have hrule : rule? p.rail
      = some ⟨b.profile.rail, .bank, .methodAndCountry, bankParts⟩ := by
    unfold rail Instrument.rail
    rw [hprofile, b.rule_eq]
  rw [fingerprint_eq hrule, hprofile, b.text_rule]

/-- The fingerprint of a verified bank account is the method id, the country
and the values of the fields that the country requires. Each of these is there
and says something, but for the kind of the account on a wire transfer, which is
never there. Bank accounts of one rail and one country that agree on these
fields have one fingerprint. -/
theorem fingerprint_required (p : Payload Instrument) (b : BankInstrument)
    (bank : p.instrument = .countryBased (.bank b))
    (verified : p.verify = .ok ()) :
    p.fingerprint
        = Text.Utf8.encode (p.rail.methodId ++ (b.details.country
          ++ String.join (bankOrder.map b.details.contribution)))
      ∧ (∀ field : BankField, field.isRequired b.details.country = true →
        (∃ value, b.details.value? field = some value ∧ value ≠ "")
          ∨ field = .accountType ∧ p.rail = .domesticWireTransfer)
      ∧ (p.rail = .domesticWireTransfer
        → b.details.value? .accountType = none)
      ∧ ∀ (q : Payload Instrument) (c : BankInstrument),
        q.instrument = .countryBased (.bank c) → q.rail = p.rail
        → c.details.country = b.details.country
        → (∀ field : BankField, field.isRequired b.details.country = true
          → c.details.value? field = b.details.value? field)
        → q.fingerprint = p.fingerprint := by
  have hfields : b.verifyFields = .ok () := by
    have h := (Payload.verify_eq_ok.1 verified).2.2
    rw [bank] at h
    exact h
  have hrail : p.rail = b.profile.rail := by
    unfold Payload.rail
    rw [bank]
    rfl
  have hbounds : b.details.checkBounds = .ok () := by
    refine Payload.checkBounds_of_verify verified ?_
    rw [bank]
    exact b.bank_profile
  refine ⟨Payload.fingerprint_bank_eq bank, ?_, ?_, ?_⟩
  · intro field required
    obtain hpresent | ⟨hfield, hwire⟩ := b.required_present hfields required
    · obtain ⟨value, hvalue⟩ := Option.ne_none_iff_exists'.1 hpresent
      exact .inl ⟨value, hvalue, BankDetails.value?_ne_empty hbounds hvalue⟩
    · exact .inr ⟨hfield, hrail.trans hwire⟩
  · intro hwire
    have hkind := b.accountType_of_wire hfields (hrail.symm.trans hwire)
    exact Option.map_eq_none_iff.2 hkind
  · intro q c hc hsame country required
    rw [Payload.fingerprint_bank_eq hc, Payload.fingerprint_bank_eq bank,
      hsame, country, BankDetails.contribution_congr country required]

/-- A wire transfer to an account of one bank. -/
def Payload.wire (id : String) (salt : List UInt8) (holderName : String)
    (holderAddress : Option String) : Payload Instrument where
  id := id
  salt := salt
  instrument := .countryBased <| .bank <| .domesticWireTransfer <|
    UsTransfer.ofHolder holderName holderAddress "First Bank" "011000015"
      "12345678" none

/-- A wire transfer, and another one that differs in its holder, whom the United
States do not ask for. -/
theorem fingerprint_required_wire :
    (Payload.wire "a" [1] "Ada Moss" none).verify = .ok ()
      ∧ (Payload.wire "a" [1] "Ada Moss" none).fingerprint
        = Text.Utf8.encode
          "DOMESTIC_WIRE_TRANSFERUSFirst Bank01100001512345678"
      ∧ (Payload.wire "b" [2, 3] "Bo Moss" (some "1 Elm St")).fingerprint
        = (Payload.wire "a" [1] "Ada Moss" none).fingerprint := by
  have verified : (Payload.wire "a" [1] "Ada Moss" none).verify = .ok () := rfl
  obtain ⟨hfingerprint, -, -, hdepends⟩ :=
    fingerprint_required _ _ rfl verified
  refine ⟨verified, hfingerprint, hdepends _ _ rfl rfl rfl ?_⟩
  intro field required
  cases field with
  | holderName => cases required
  | _ => rfl

end FiatAccounts

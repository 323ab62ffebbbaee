/-
The fields that a country requires of a bank account.

A bank account is identified by the values of exactly these fields
(`BankDetails.lookup_identity`), and in a verified one they are there
(`BankInstrument.required_present`). Transfers inside a country look the fields
up in the catalog. The two transfers of the United States have rules of their
own instead, and these demand what the catalog requires of that country, but for
the kind of the account on a wire transfer, which they forbid.
-/
import FiatAccounts.Proofs.Instrument.Fields
import FiatAccounts.Proofs.Names

namespace FiatAccounts

-- ============================================================ identity

/-- Every field is listed. -/
theorem BankField.mem_all (field : BankField) : field ∈ all := by
  cases field <;> decide

/-- The list of the required fields and the question for a single one agree. -/
theorem BankField.mem_required {field : BankField} {country : String} :
    field ∈ required country ↔ field.isRequired country = true := by
  unfold required
  rw [List.mem_filter, and_iff_right field.mem_all]

/-- A present value is found under its label and under no other. -/
theorem lookup_whenPresent (label name : String) (value : Option String) :
    (whenPresent label value).lookup name
      = if name = label then value else none := by
  cases value with
  | none => simp [whenPresent]
  | some value =>
      unfold whenPresent
      rw [List.lookup_cons]
      by_cases h : name = label
      · simp [h]
      · rw [beq_false_of_ne h, if_neg h]
        rfl

namespace BankDetails

/-- Of the values under a list of fields, a field has its own or none. -/
theorem lookup_values (d : BankDetails) (field : BankField)
    (fields : List BankField) :
    (fields.flatMap fun other =>
        whenPresent other.name (d.value? other)).lookup field.name
      = if field ∈ fields then d.value? field else none := by
  induction fields with
  | nil => rfl
  | cons other fields ih =>
      rw [List.flatMap_cons, List.lookup_append, lookup_whenPresent, ih]
      by_cases h : field = other
      · subst h
        -- what is absent here is absent wherever the field is listed again
        cases d.value? field <;> simp
      · have hname : field.name ≠ other.name :=
          fun hname => h (BankField.name_injective hname)
        simp [h, hname]

/-- A bank account is identified by the values of the fields that its country
requires. -/
theorem lookup_identity (d : BankDetails) (field : BankField) :
    d.identity.lookup field.name
      = if field.isRequired d.country then d.value? field else none := by
  unfold identity
  rw [lookup_values]
  simp only [BankField.mem_required]

end BankDetails

-- ============================================================= presence

/-- What the catalog requires is there. -/
theorem BankDetails.required_present {d : BankDetails}
    (h : d.checkRequired = .ok ()) {field : BankField}
    (required : field.isRequired d.country = true) :
    d.value? field ≠ none := by
  unfold checkRequired at h
  dsimp only at h
  split at h
  case h_1 => cases h
  case h_2 hfound =>
    have hfield := BankField.mem_required.2 required
    have hpresent := List.find?_eq_none.1 hfound field hfield
    intro habsent
    rw [habsent] at hpresent
    exact hpresent rfl

namespace UsTransfer

/-- A field that is asked for is there. -/
theorem need_eq_ok {variant field value : String} {found : Option String} :
    need variant field found = .ok value ↔ found = some value := by
  cases found <;> simp [need]

/-- Both transfers of the United States demand what the catalog requires of that
country, but for the kind of the account. -/
theorem required_present {variant : String} {d : UsTransfer}
    (h : d.verifyShared variant = .ok ()) {field : BankField}
    (required : field.isRequired d.bank.country = true)
    (hfield : field ≠ .accountType) :
    d.bank.value? field ≠ none := by
  unfold verifyShared at h
  simp only [bind_eq_ok, need_eq_ok] at h
  obtain ⟨_, hcountry, _, -, _, -, _, -, bankName, hbankName, routingNr,
    hroutingNr, -⟩ := h
  rw [Check.equals_eq_ok.1 (Check.raise_eq_ok.1 hcountry)] at required
  cases field with
  | bankName =>
      show d.bank.bankName ≠ none
      rw [hbankName]
      exact nofun
  | bankId =>
      -- the routing number is the id of the bank
      show d.bank.bankId ≠ none
      rw [hroutingNr]
      exact nofun
  | accountNr => exact nofun
  | accountType => exact absurd rfl hfield
  | holderName | holderId | branchId | nationalAccountId => cases required

/-- The kind of the account has to be stated of an ACH transfer. -/
theorem accountType_of_verifyAch {d : UsTransfer}
    (h : d.verifyAch = .ok ()) : d.bank.accountType ≠ none := by
  obtain ⟨-, h⟩ := bind_unit_eq_ok.1 h
  intro hnone
  rw [hnone] at h
  cases h

/-- Of a wire transfer it must not be stated. -/
theorem accountType_of_verifyWire {d : UsTransfer}
    (h : d.verifyWire = .ok ()) : d.bank.accountType = none := by
  obtain ⟨-, h⟩ := bind_unit_eq_ok.1 h
  cases hkind : d.bank.accountType with
  | none => rfl
  | some kind =>
      rw [hkind] at h
      cases h

end UsTransfer

namespace BankInstrument

/-- What the country requires is there in every verified bank account, but for
the kind of the account on a wire transfer. -/
theorem required_present {b : BankInstrument} (h : b.verifyFields = .ok ())
    {field : BankField}
    (required : field.isRequired b.details.country = true) :
    b.details.value? field ≠ none
      ∨ field = .accountType ∧ b.profile.rail = .domesticWireTransfer := by
  cases b with
  | achTransfer d =>
      refine .inl ?_
      by_cases hfield : field = .accountType
      · subst hfield
        intro hnone
        exact d.accountType_of_verifyAch h (Option.map_eq_none_iff.1 hnone)
      · exact d.required_present (bind_unit_eq_ok.1 h).1 required hfield
  | nationalBank d =>
      exact .inl (d.required_present (Check.raise_eq_ok.1 h) required)
  | cashDeposit d =>
      have hrequired := (bind_unit_eq_ok.1 (Check.raise_eq_ok.1 h)).1
      exact .inl (d.bank.required_present hrequired required)
  | sameBank d =>
      exact .inl (d.required_present (Check.raise_eq_ok.1 h) required)
  | domesticWireTransfer d =>
      by_cases hfield : field = .accountType
      · exact .inr ⟨hfield, rfl⟩
      · exact .inl (d.required_present (bind_unit_eq_ok.1 h).1 required hfield)

/-- The kind of the account is never there on a wire transfer. -/
theorem accountType_of_wire {b : BankInstrument}
    (h : b.verifyFields = .ok ())
    (wire : b.profile.rail = .domesticWireTransfer) :
    b.details.accountType = none := by
  cases b with
  | domesticWireTransfer d => exact d.accountType_of_verifyWire h
  | achTransfer d | nationalBank d | cashDeposit d | sameBank d => cases wire

end BankInstrument

end FiatAccounts

/-
Whether a decoded payload can be made again from what it shows.

Most instruments are made of all their fields, so a decoded one is made again as
it was. The two transfers of the United States are made of a few of the fields
of a bank account, and the rest is filled in. Decoding takes all the fields from
the bytes. The rules of these transfers settle the country, the currency and the
kind of the account, but they say nothing of the holder's id, of the branch and
of the national id, so a decoded transfer may have what no transfer is made
with. What is made again lacks these three fields and nothing else
(`Payload.remake_of_verify`).
-/
import FiatAccounts.Proofs.Codec.Obtained
import FiatAccounts.Proofs.Codec.RoundTrip
import FiatAccounts.Proofs.Instrument.Bank

namespace FiatAccounts

-- ==================================================== fields left aside

/-- Without the fields that no transfer of the United States is made with. -/
def BankDetails.bare (d : BankDetails) : BankDetails :=
  { d with holderId := none, branchId := none, nationalAccountId := none }

def UsTransfer.bare (d : UsTransfer) : UsTransfer :=
  { d with bank := d.bank.bare }

/-- Only the transfers of the United States lose anything. -/
def Instrument.bare : Instrument → Instrument
  | .countryBased (.bank (.achTransfer d)) =>
    .countryBased (.bank (.achTransfer d.bare))
  | .countryBased (.bank (.domesticWireTransfer d)) =>
    .countryBased (.bank (.domesticWireTransfer d.bare))
  | i => i

/-- A transfer is left as it is if it has none of the fields that are left
aside. -/
theorem UsTransfer.bare_eq_iff {d : UsTransfer} :
    d.bare = d ↔ d.bank.holderId = none ∧ d.bank.branchId = none
      ∧ d.bank.nationalAccountId = none := by
  constructor
  · intro h
    rw [← h]
    exact ⟨rfl, rfl, rfl⟩
  · obtain ⟨bank, holderAddress⟩ := d
    cases bank
    rintro ⟨⟨⟩, ⟨⟩, ⟨⟩⟩
    rfl

/-- An instrument is left as it is unless it is such a transfer and has one of
these fields. -/
theorem Instrument.bare_eq_iff {i : Instrument} :
    i.bare = i ↔ ∀ d, i = .countryBased (.bank (.achTransfer d))
        ∨ i = .countryBased (.bank (.domesticWireTransfer d)) →
      d.bank.holderId = none ∧ d.bank.branchId = none
        ∧ d.bank.nationalAccountId = none := by
  simp only [← UsTransfer.bare_eq_iff]
  unfold bare
  split
  next d => simp
  next d => simp
  next hach hwire =>
    refine iff_of_true rfl ?_
    rintro d (h | h)
    · exact absurd h (hach d)
    · exact absurd h (hwire d)

/-- Bounds that hold of a bank account hold without the fields left aside, which
are optional. -/
theorem BankDetails.checkBounds_bare {d : BankDetails}
    (h : d.checkBounds = .ok ()) : d.bare.checkBounds = .ok () := by
  unfold checkBounds at h ⊢
  simp only [bind_unit_eq_ok] at h ⊢
  obtain ⟨hholder, -, hbank, hid, -, hnr, -⟩ := h
  exact ⟨hholder, rfl, hbank, hid, rfl, hnr, rfl⟩

/-- What is left aside shows nowhere but in the bank account of a profile. -/
theorem UsTransfer.checkProfile_bare {rail : Rail} {d : UsTransfer}
    (h : Payload.checkProfile (d.profile rail) = .ok ()) :
    Payload.checkProfile (d.bare.profile rail) = .ok () := by
  obtain ⟨hcountry, hcurrency, hbank⟩ := Payload.checkProfile_eq_ok.1 h
  refine Payload.checkProfile_eq_ok.2 ⟨hcountry, hcurrency, ?_⟩
  rintro details ⟨⟩
  exact BankDetails.checkBounds_bare (hbank _ rfl)

/-- No rule asks for what is left aside. -/
theorem Payload.verify_bare {p : Payload Instrument}
    (verified : p.verify = .ok ()) :
    (p.map Instrument.bare).verify = .ok () := by
  obtain ⟨hcore, hprofile, hfields⟩ := verify_eq_ok.1 verified
  obtain ⟨core, instrument⟩ := p
  refine verify_eq_ok.2 ⟨hcore, ?_⟩
  show checkProfile instrument.bare.profile = .ok ()
    ∧ instrument.bare.verifyFields = .ok ()
  unfold Instrument.bare
  split
  · exact ⟨UsTransfer.checkProfile_bare hprofile, hfields⟩
  · exact ⟨UsTransfer.checkProfile_bare hprofile, hfields⟩
  · exact ⟨hprofile, hfields⟩

-- ========================================================= made again

/-- The payload that is made of what a payload shows. A transfer through the
clearing house that shows no kind of account is not made. -/
def Payload.remake (p : Payload Instrument) :
    Except AccountError (Payload Instrument) :=
  match p.instrument with
  | .countryBased (.bank (.achTransfer d)) =>
    match d.bank.accountType with
    | some kind =>
      createAchTransfer p.id p.salt d.holderName d.holderAddress
        (d.bank.bankName.getD "") d.routingNr d.bank.accountNr kind
    | none => .error (.missingRequiredField "AchTransfer" "bank_account_type")
  | .countryBased (.bank (.domesticWireTransfer d)) =>
    createWireTransfer p.id p.salt d.holderName d.holderAddress
      (d.bank.bankName.getD "") d.routingNr d.bank.accountNr
  | instrument => create p.id p.salt instrument

/-- The rules of a transfer settle all that it is made without but the fields
left aside. -/
theorem UsTransfer.ofHolder_eq_bare {variant : String} {d : UsTransfer}
    (h : d.verifyShared variant = .ok ()) :
    ofHolder d.holderName d.holderAddress (d.bank.bankName.getD "") d.routingNr
        d.bank.accountNr d.bank.accountType
      = d.bare := by
  unfold verifyShared at h
  simp only [bind_eq_ok, need_eq_ok] at h
  obtain ⟨_, hcountry, _, hcurrency, _, hholder, _, -, _, hbank, _, hrouting,
    -⟩ := h
  have hcountry := Check.equals_eq_ok.1 (Check.raise_eq_ok.1 hcountry)
  have hcurrency := Check.equals_eq_ok.1 (Check.raise_eq_ok.1 hcurrency)
  unfold ofHolder bare BankDetails.bare UsTransfer.holderName routingNr
  rw [hcountry, hcurrency, hholder, hbank, hrouting]
  rfl

/-- A verified payload is made again without the fields left aside. -/
theorem Payload.remake_of_verify {p : Payload Instrument}
    (verified : p.verify = .ok ()) :
    p.remake = .ok (p.map Instrument.bare) := by
  have hbare := verify_bare verified
  have hfields := (verify_eq_ok.1 verified).2.2
  obtain ⟨⟨id, salt⟩, instrument⟩ := p
  unfold remake
  split
  case h_1 d hinstrument =>
    cases hinstrument
    obtain ⟨hshared, hkind⟩ := bind_unit_eq_ok.1 hfields
    have hmade := UsTransfer.ofHolder_eq_bare hshared
    split
    next kind hsome =>
      rw [hsome] at hmade
      refine create_eq_ok.2 ⟨?_, hbare⟩
      rw [hmade]
      rfl
    next hnone =>
      -- an ACH transfer that states no kind of account was not verified
      rw [hnone] at hkind
      cases hkind
  case h_2 d hinstrument =>
    cases hinstrument
    have hmade := UsTransfer.ofHolder_eq_bare (bind_unit_eq_ok.1 hfields).1
    rw [d.accountType_of_verifyWire hfields] at hmade
    refine create_eq_ok.2 ⟨?_, hbare⟩
    rw [hmade]
    rfl
  case h_3 hach hwire =>
    -- all other instruments are made of themselves
    have hself : Instrument.bare instrument = instrument := by
      refine Instrument.bare_eq_iff.2 ?_
      rintro d (h | h)
      · exact absurd h (hach d)
      · exact absurd h (hwire d)
    unfold map at hbare ⊢
    rw [hself] at hbare ⊢
    exact create_eq_ok.2 ⟨rfl, hbare⟩

/-- A decoded payload is made again from what it shows, and it comes out as it
was unless it is a transfer of the United States that has a holder's id, a
branch or a national id. -/
theorem remake_of_decoded (bytes : List UInt8) (p : Payload Instrument)
    (decoded : decodePayload bytes = .ok p) :
    p.remake = .ok (p.map Instrument.bare)
      ∧ (p.remake = .ok p
        ↔ ∀ d, p.instrument = .countryBased (.bank (.achTransfer d))
            ∨ p.instrument = .countryBased (.bank (.domesticWireTransfer d)) →
          d.bank.holderId = none ∧ d.bank.branchId = none
            ∧ d.bank.nationalAccountId = none) := by
  have hmade := Payload.remake_of_verify (verify_of_decodePayload decoded)
  refine ⟨hmade, ?_⟩
  rw [hmade, ← Instrument.bare_eq_iff]
  constructor
  · intro h
    exact congrArg Payload.instrument (Except.ok.inj h)
  · intro h
    unfold Payload.map
    rw [h]

/-- A transfer with no other fields than it is made of comes out as it was. -/
theorem remake_of_decoded_sample :
    decodePayload (encodePayload .sample .wire) = .ok Payload.sample
      ∧ Payload.sample.remake = .ok .sample := by
  have hdecoded : decodePayload (encodePayload .sample .wire)
      = .ok Payload.sample := by
    decide +kernel
  refine ⟨hdecoded, (remake_of_decoded _ _ hdecoded).2.2 ?_⟩
  rintro d (h | h)
  · cases h
    exact ⟨rfl, rfl, rfl⟩
  · cases h

/-- `Payload.sample` at a branch of the bank. -/
def Payload.annotated : Payload Instrument where
  id := "ach-1"
  salt := [7, 0, 255]
  instrument := .countryBased <| .bank <| .achTransfer
    { bank :=
        { country := "US"
          currency := "USD"
          holderName := some "Ada Moss"
          holderId := none
          bankName := some "First Bank"
          bankId := some "011000015"
          branchId := some "042"
          accountNr := "12345678"
          accountType := some .checking
          nationalAccountId := none }
      holderAddress := none }

/-- It is decoded with its branch and made again without. -/
theorem annotated_not_remade :
    decodePayload (encodePayload .annotated .wire) = .ok Payload.annotated
      ∧ Payload.annotated.remake = .ok .sample
      ∧ Payload.annotated.remake ≠ .ok .annotated := by
  refine ⟨?_, ?_, ?_⟩ <;> decide +kernel

end FiatAccounts

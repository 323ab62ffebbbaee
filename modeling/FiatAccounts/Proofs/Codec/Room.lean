/-
Which payloads the usual limit has room for.

Not every payload fits. The texts of a phone number and of a list of codes are
as long as their owner likes, so there are payloads beyond every limit
(`exists_beyond`). All else in a payload has a bound, and the bounds of one
payload add up to eight kilobytes at most, three levels of nesting included
(`Payload.fitsIn`). That leaves 56 of the usual 64 for the texts without a
bound, and a payload whose own keep within these is written, whatever its kind
(`encodePayload_of_room`).
-/
import FiatAccounts.Proofs.Codec.Limit
import FiatAccounts.Proofs.Codec.Obtained
import FiatAccounts.Proofs.Instrument.Room

namespace FiatAccounts

open Wire Wire.Layout

-- =============================================== texts without a bound

/-- The texts of an instrument whose length no check bounds. -/
def CountryInstrument.unlimited : CountryInstrument → List String
  | .amazonGiftCard d => [d.details.emailOrMobileNr]
  | .swish d => [d.mobileNr]
  | .sepa d => d.details.acceptedCountryCodes
  | .sepaInstant d => d.details.acceptedCountryCodes
  | .bizum d => [d.mobileNr]
  | .wise d => d.details.selectedCurrencyCodes
  | .moneyGram d => d.details.selectedCurrencyCodes
  | .pin4 d => [d.mobileNr]
  | _ => []

def Instrument.unlimited : Instrument → List String
  | .zelle d => [d.emailOrMobileNr]
  | .halCash d => [d.mobileNr]
  | .sbp d => [d.mobileNumber]
  | .revolut d => d.selectedCurrencyCodes
  | .uphold d => d.selectedCurrencyCodes
  | .countryBased c => c.unlimited
  | _ => []

-- ============================================================ profiles

section

variable {profile : Profile} (h : Payload.checkProfile profile = .ok ())

include h

/-- A currency that has been checked takes three bytes. -/
theorem Payload.utf8ByteSize_of_currency {choice : CurrencyChoice}
    (hchoice : profile.currency = some choice) {code : String}
    (hcode : choice.codes = [code]) : code.utf8ByteSize ≤ 3 := by
  have hcurrency := (checkProfile_eq_ok.1 h).2.1 choice hchoice
  have hmem : code ∈ choice.codes := hcode ▸ List.mem_singleton_self code
  have hknown := ((checkCurrency_eq_ok.1 hcurrency).2 code hmem).1
  exact Nat.le_of_eq (Currency.utf8ByteSize_of_isKnown hknown)

/-- A country that has been checked takes two, and none takes nothing. -/
theorem Payload.utf8ByteSize_of_country :
    (profile.country.getD "").utf8ByteSize ≤ 2 := by
  cases hcountry : profile.country with
  | none => exact Nat.zero_le 2
  | some code =>
      have hcheck := (checkProfile_eq_ok.1 h).1 code hcountry
      have hknown := (checkCountry_eq_ok.1 hcheck).1
      exact Nat.le_of_eq (Country.utf8ByteSize_of_isKnown hknown)

end

-- ======================================================= bank accounts

/-- The holder's address is the last thing that the shared rules look at. -/
theorem UsTransfer.checkAddress_of_verifyShared {variant : String}
    {d : UsTransfer} (h : d.verifyShared variant = .ok ()) :
    Check.optionalText "holder_address" d.holderAddress 5 200 = .ok () := by
  unfold verifyShared at h
  simp only [bind_eq_ok, Check.raise_eq_ok] at h
  obtain ⟨_, -, _, -, _, -, _, -, _, -, _, -, _, -, haddress⟩ := h
  exact haddress

namespace BankInstrument

variable {b : BankInstrument}

/-- What a kind of bank account adds to the details that all of them have is at
most one text, an address or conditions. -/
theorem arm_fitsIn (h : b.verifyFields = .ok ()) :
    (Layout.choice Message.BankArm.arms).FitsIn
      (Message.BankArm.arms.map Layout.Arm.number) (some b.arm) 2012 := by
  cases b with
  | achTransfer d =>
      have haddress := d.checkAddress_of_verifyShared (bind_unit_eq_ok.1 h).1
      exact .choice rfl (.whole (by decide) (.optional haddress) (by decide))
  | nationalBank d => exact .choice rfl .nothing
  | cashDeposit d =>
      have hrequirements := (bind_unit_eq_ok.1 (Check.raise_eq_ok.1 h)).2
      exact .choice rfl
        (.whole (by decide) (.optional hrequirements) (by decide))
  | sameBank d => exact .choice rfl .nothing
  | domesticWireTransfer d =>
      have haddress := d.checkAddress_of_verifyShared (bind_unit_eq_ok.1 h).1
      exact .choice rfl (.whole (by decide) (.optional haddress) (by decide))

/-- The message of a checked bank account fits into six kilobytes. -/
theorem fitsIn (hprofile : Payload.checkProfile b.profile = .ok ())
    (h : b.verifyFields = .ok ()) :
    Message.Bank.layout.FitsIn [] b.toMessage 6144 := by
  have hbounds : b.details.checkBounds = .ok () := by
    refine (Payload.checkProfile_eq_ok.1 hprofile).2.2 b.details ?_
    cases b <;> rfl
  have hcurrency : b.details.currency.utf8ByteSize ≤ 3 := by
    cases b <;> exact Payload.utf8ByteSize_of_currency hprofile rfl rfl
  have hkind : ∀ name ∈ b.details.accountType.map BankAccountType.name,
      name.utf8ByteSize ≤ 8 := by
    intro name hname
    obtain ⟨kind, -, rfl⟩ := Option.map_eq_some_iff.1 hname
    cases kind <;> decide
  unfold BankDetails.checkBounds at hbounds
  simp only [bind_unit_eq_ok] at hbounds
  obtain ⟨hholder, hholderId, hbank, hbankId, hbranch, hnr, hnational⟩ :=
    hbounds
  -- the fields in the order of their numbers, and what the kind adds
  exact .reshape (by decide)
    (.both (.optional hholder) <| .both (.optional hholderId) <|
     .both (.optional hbank) <| .both (.optional hbankId) <|
     .both (.optional hbranch) <| .both (.required hnr) <|
     .both (.optionalText hkind) <| .both (.optional hnational) <|
     .both (.text hcurrency) <| arm_fitsIn h) (by decide)

end BankInstrument

-- ============================================================= choices

/-- A checked instrument of a country fits beside its unbounded texts into what
a bank account takes, which takes the most. The currency of some of them is
bounded by the profile and not by their own rules. -/
theorem CountryInstrument.arm_fitsIn {c : CountryInstrument}
    (hprofile : Payload.checkProfile c.profile = .ok ())
    (h : c.verifyFields = .ok ()) :
    (Layout.choice Message.CountryArm.arms).FitsIn
      (Message.CountryArm.arms.map Layout.Arm.number) (some c.arm)
      (6144 + room c.unlimited + 6) := by
  have hcheck := @Check.raise_eq_ok
  cases c with
  | bank b => exact .choice rfl (b.fitsIn hprofile h)
  | amazonGiftCard d => exact .choice rfl AmazonGiftCard.fitsIn
  | swish d => exact .choice rfl (Swish.fitsIn (hcheck.1 h))
  | sepa d => exact .choice rfl (Sepa.fitsIn (hcheck.1 h))
  | sepaInstant d => exact .choice rfl (Sepa.fitsIn (hcheck.1 h))
  | bizum d => exact .choice rfl Bizum.fitsIn
  | f2f d =>
      have hcurrency := Payload.utf8ByteSize_of_currency hprofile rfl rfl
      exact .choice rfl (F2f.fitsIn (hcheck.1 h) hcurrency)
  | pix d => exact .choice rfl (Pix.fitsIn (hcheck.1 h))
  | promptPay d => exact .choice rfl (PromptPay.fitsIn (hcheck.1 h))
  | strike d => exact .choice rfl (Strike.fitsIn (hcheck.1 h))
  | upi d => exact .choice rfl (Upi.fitsIn (hcheck.1 h))
  | wise d => exact .choice rfl (Wise.fitsIn (hcheck.1 h))
  | wiseUsd d => exact .choice rfl (WiseUsd.fitsIn (hcheck.1 h))
  | moneyGram d => exact .choice rfl (MoneyGram.fitsIn (hcheck.1 h))
  | moneyBeam d =>
      have hcurrency := Payload.utf8ByteSize_of_currency hprofile rfl rfl
      exact .choice rfl (MoneyBeam.fitsIn (hcheck.1 h) hcurrency)
  | pin4 d => exact .choice rfl Pin4.fitsIn
  | swift d =>
      have hcurrency := Payload.utf8ByteSize_of_currency hprofile rfl rfl
      exact .choice rfl (Swift.fitsIn (hcheck.1 h) hcurrency)

/-- A country and one of its instruments. -/
theorem CountryInstrument.fitsIn {c : CountryInstrument}
    (hprofile : Payload.checkProfile c.profile = .ok ())
    (h : c.verifyFields = .ok ()) :
    Message.CountryBased.layout.FitsIn [] c.toMessage
      (6164 + room c.unlimited) := by
  have hcountry := Payload.utf8ByteSize_of_country hprofile
  exact .reshape (by decide)
    (.both (.text hcountry) <| arm_fitsIn hprofile h) (by omega)

/-- Every alternative has the room that a country's takes. -/
theorem Instrument.arm_fitsIn {i : Instrument}
    (hprofile : Payload.checkProfile i.profile = .ok ())
    (h : i.verifyFields = .ok ()) :
    (Layout.choice Message.PayloadArm.arms).FitsIn
      (Message.PayloadArm.arms.map Layout.Arm.number) (some i.arm)
      (6164 + room i.unlimited + 6) := by
  have hle : 6144 + room i.unlimited ≤ 6164 + room i.unlimited :=
    Nat.add_le_add_right (by decide) _
  have hcheck := @Check.raise_eq_ok
  cases i with
  | zelle d => exact .choice rfl ((Zelle.fitsIn (hcheck.1 h)).mono hle)
  | usPostalMoneyOrder d =>
      exact .choice rfl ((UsPostalMoneyOrder.fitsIn (hcheck.1 h)).mono hle)
  | payId d => exact .choice rfl ((PayId.fitsIn (hcheck.1 h)).mono hle)
  | interacETransfer d =>
      exact .choice rfl ((InteracETransfer.fitsIn (hcheck.1 h)).mono hle)
  | halCash d => exact .choice rfl (HalCash.fitsIn.mono hle)
  | fasterPayments d =>
      exact .choice rfl ((FasterPayments.fitsIn (hcheck.1 h)).mono hle)
  | sbp d => exact .choice rfl ((Sbp.fitsIn (hcheck.1 h)).mono hle)
  | cashByMail d =>
      exact .choice rfl ((CashByMail.fitsIn (hcheck.1 h)).mono hle)
  | revolut d => exact .choice rfl ((Revolut.fitsIn (hcheck.1 h)).mono hle)
  | uphold d => exact .choice rfl ((Uphold.fitsIn (hcheck.1 h)).mono hle)
  | userDefinedFiat d =>
      exact .choice rfl ((UserDefinedFiat.fitsIn (hcheck.1 h)).mono hle)
  | countryBased c =>
      exact .choice rfl (CountryInstrument.fitsIn hprofile h)

/-- Eight kilobytes hold all that has a bound. -/
theorem Payload.fitsIn {p : Payload Instrument}
    (verified : p.verify = .ok ()) :
    Message.Payload.layout.FitsIn [] p.toMessage
      (8192 + room p.instrument.unlimited) := by
  obtain ⟨hcore, hprofile, hfields⟩ := verify_eq_ok.1 verified
  obtain ⟨⟨-, hid⟩, -, hsalt⟩ := PayloadCore.check_eq_ok.1 hcore
  have hidSize : p.id.utf8ByteSize ≤ 200 := by
    have := Text.Utf8.length_encode_le p.id
    rw [Text.Utf8.length_encode] at this
    omega
  exact .reshape (by decide)
    (.both (.text hidSize) <| .both (.blob hsalt) <|
     Instrument.arm_fitsIn hprofile hfields) (by omega)

-- =============================================================== codecs

/-- A payload is written under the usual limit if 56 of its 64 kilobytes hold
the texts that have no bound, each as a field of its own. Only thirteen of the
32 kinds have such texts. -/
theorem encodePayload_of_room (codec : Codec)
    (h : Codec.ofConfig .standard = .ok codec) (p : Payload Instrument)
    (obtained : p.Obtained) (hroom : room p.instrument.unlimited ≤ 57344)
    (form : Form) :
    (encodePayload p form).length ≤ 8192 + room p.instrument.unlimited
      ∧ (encodePayload p form).length ≤ 65536
      ∧ codec.encodePayload p form = .ok (encodePayload p form) := by
  have verified := Payload.obtained_iff_verify.1 obtained
  have hlength : (encodePayload p form).length
      ≤ 8192 + room p.instrument.unlimited := by
    rw [encodePayload_eq]
    exact Payload.fitsIn verified (List.forall_mem_nil _) (by omega)
  have hlimit : (encodePayload p form).length ≤ 65536 := by omega
  refine ⟨hlength, hlimit, ?_⟩
  rw [(Codec.cutAt_of_ofConfig h).encodePayload]
  exact if_pos hlimit

/-- A transfer from two accepted countries. -/
theorem encodePayload_of_room_sample :
    Codec.encodePayload ⟨.standard⟩ .sepaSample .wire
      = .ok (encodePayload .sepaSample .wire) := by
  have hroom : room Payload.sepaSample.instrument.unlimited ≤ 57344 := by
    decide +kernel
  exact
    (encodePayload_of_room _ rfl _ Payload.obtained_sepaSample hroom .wire).2.2

-- ===================================================== beyond any limit

/-- A phone number with blanks behind its six digits. -/
def paddedPhone (blanks : Nat) : String :=
  String.ofList (['6', '1', '2', '3', '4', '5'] ++ List.replicate blanks ' ')

/-- Every blank is one more byte. -/
theorem utf8ByteSize_paddedPhone (blanks : Nat) :
    (paddedPhone blanks).utf8ByteSize = blanks + 6 := by
  have hascii : Text.IsAscii (paddedPhone blanks) := by
    intro c hc
    rw [paddedPhone, String.toList_ofList, List.mem_append] at hc
    rcases hc with hc | hc
    · have hdigits : ['6', '1', '2', '3', '4', '5'].all Char.isDigit = true :=
        rfl
      have hdigit := Text.isDigit_iff.1 (List.all_eq_true.1 hdigits c hc)
      omega
    · rw [List.eq_of_mem_replicate hc]
      decide
  rw [hascii.utf8ByteSize_eq, paddedPhone, String.length_ofList,
    List.length_append, List.length_replicate]
  exact Nat.add_comm ..

/-- No number of blanks makes the number wrong, because digits alone are
counted. -/
theorem phone_paddedPhone (field : String) (blanks : Nat) :
    Check.phone field (paddedPhone blanks) = .ok () := by
  have hne : paddedPhone blanks ≠ "" := by
    intro hempty
    have hsize : "".utf8ByteSize = blanks + 6 :=
      hempty ▸ utf8ByteSize_paddedPhone blanks
    exact absurd hsize (Nat.succ_ne_zero _).symm
  have hdigits : (List.replicate blanks ' ').countP Char.isDigit = 0 := by
    rw [List.countP_replicate]
    rfl
  have hphone : Check.isLocalPhone
      (['6', '1', '2', '3', '4', '5'] ++ List.replicate blanks ' ') = true := by
    have hblanks : (List.replicate blanks ' ').all
        (fun c => c.isDigit || c == ' ' || c == '-') = true :=
      List.all_eq_true.2 fun c hc => by
        rw [List.eq_of_mem_replicate hc]
        rfl
    unfold Check.isLocalPhone
    rw [List.all_append, List.countP_append, hdigits, hblanks]
    rfl
  refine Check.refuse_eq_ok.2 ⟨hne, Check.demand_eq_ok.2 ?_⟩
  rw [paddedPhone, String.toList_ofList]
  exact hphone

namespace Payload

/-- A payload around such a number. -/
def padded (blanks : Nat) : Payload Instrument where
  id := "h"
  salt := [1]
  instrument := .halCash ⟨paddedPhone blanks⟩

/-- A payload with such a number obeys every rule. -/
theorem verify_padded (blanks : Nat) : (padded blanks).verify = .ok () := by
  have hcore : PayloadCore.check ⟨"h", [1]⟩ = .ok () :=
    PayloadCore.check_eq_ok.2 ⟨by decide, by decide⟩
  have hcurrency : checkCurrency .halCash (.fixed "EUR") = .ok () := by
    decide +kernel
  refine verify_eq_ok.2 ⟨hcore, checkProfile_eq_ok.2 ⟨nofun, ?_, nofun⟩, ?_⟩
  · rintro choice ⟨⟩
    exact hcurrency
  · exact Check.raise_eq_ok.2 (phone_paddedPhone _ blanks)

/-- The bytes of the payload are more than the blanks, which are written in full
on the innermost level. -/
theorem lt_length_encode_padded (blanks : Nat) :
    blanks < (encodePayload (padded blanks) .wire).length := by
  let d : HalCash := ⟨paddedPhone blanks⟩
  have hsize : d.mobileNr.utf8ByteSize = blanks + 6 :=
    utf8ByteSize_paddedPhone blanks
  have hne : d.mobileNr ≠ "" :=
    Check.phone_ne_empty (phone_paddedPhone "mobile_nr" blanks)
  -- a field is no shorter than its content, on either level
  have hnr : d.mobileNr.utf8ByteSize ≤ (HalCash.layout.encode d).length :=
    le_length_encode (if_neg hne)
  have harm : (HalCash.layout.encode d).length
      ≤ ((Layout.choice Message.PayloadArm.arms).encode
        (some (.halCash d))).length :=
    le_length_encode rfl
  have hmessage : encodePayload (padded blanks) .wire
      = (Layout.text 1).encode "h" ++ ((Layout.blob 2).encode [1]
        ++ (Layout.choice Message.PayloadArm.arms).encode
          (some (.halCash d))) := by
    rw [← encode_both, ← encode_both]
    rfl
  rw [hmessage, List.length_append, List.length_append]
  omega

end Payload

/-- However high a limit is, there is a payload beyond it. -/
theorem exists_beyond (limit : Nat) :
    ∃ p : Payload Instrument, p.Obtained
      ∧ limit < (encodePayload p .wire).length :=
  ⟨.padded limit, Payload.obtained_iff_verify.2 (Payload.verify_padded limit),
    Payload.lt_length_encode_padded limit⟩

/-- A number with sixty-four kilobytes of blanks makes a payload that the usual
limit refuses. -/
theorem padded_oversize :
    Payload.create "h" [1] (.halCash ⟨paddedPhone 65536⟩)
        = .ok (.padded 65536)
      ∧ 65536 < (encodePayload (.padded 65536) .wire).length
      ∧ Codec.encodePayload ⟨.standard⟩ (.padded 65536) .wire
        = .error (.decode (.oversize
          (encodePayload (.padded 65536) .wire).length 65536)) := by
  have hlength := Payload.lt_length_encode_padded 65536
  refine ⟨Payload.create_eq_ok.2 ⟨rfl, Payload.verify_padded 65536⟩, hlength,
    ?_⟩
  have hcut : Codec.CutAt ⟨.standard⟩ 65536 :=
    Codec.cutAt_of_ofConfig (show Codec.ofConfig .standard = _ from rfl)
  rw [hcut.encodePayload]
  exact if_neg (Nat.not_le.2 hlength)

end FiatAccounts

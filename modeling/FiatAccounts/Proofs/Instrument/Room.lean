/-
The room that the fields of an instrument take on the wire, as far as its checks
bound it.

Most fields are texts of a checked length. Two kinds of field are not: a phone
number has 6 to 15 digits and any number of blanks and dashes between them, and
a list of codes may name a code again and again. These are counted as they are,
and what the others of one instrument take never comes to more than six
kilobytes (`Swift.fitsIn` is the largest).
-/
import FiatAccounts.Message.Instrument
import FiatAccounts.Proofs.Catalog.Coverage
import FiatAccounts.Proofs.Iban.Verdict
import FiatAccounts.Proofs.Wire.Room

namespace FiatAccounts

open Wire Wire.Layout

-- =============================================================== codes

/-- The codes of countries have two letters. -/
theorem Country.utf8ByteSize_of_isKnown {code : String}
    (h : isKnown code = true) : code.utf8ByteSize = 2 := by
  have hcodes : ∀ code ∈ codes, code.utf8ByteSize = 2 := by decide +kernel
  exact hcodes code (isKnown_iff.1 h)

/-- The codes of currencies have three. -/
theorem Currency.utf8ByteSize_of_isKnown {code : String}
    (h : isKnown code = true) : code.utf8ByteSize = 3 := by
  have hcodes : ∀ code ∈ codes, code.utf8ByteSize = 3 := by decide +kernel
  exact hcodes code (isKnown_iff.1 h)

-- =============================================== instruments of no country

theorem Zelle.fitsIn {d : Zelle} (h : d.check = .ok ()) :
    layout.FitsIn [] d (6144 + room [d.emailOrMobileNr]) := by
  obtain ⟨hname, -⟩ := bind_unit_eq_ok.1 h
  exact .reshape (by decide)
    (.both (.required hname) <| .counted) (Nat.add_le_add_right (by decide) _)

theorem UsPostalMoneyOrder.fitsIn {d : UsPostalMoneyOrder}
    (h : d.check = .ok ()) : layout.FitsIn [] d 6144 := by
  obtain ⟨hname, haddress⟩ := bind_unit_eq_ok.1 h
  exact .reshape (by decide)
    (.both (.required hname) <| .required haddress) (by decide)

theorem PayId.fitsIn {d : PayId} (h : d.check = .ok ()) :
    layout.FitsIn [] d 6144 := by
  obtain ⟨hname, hid⟩ := bind_unit_eq_ok.1 h
  exact .reshape (by decide)
    (.both (.required hname) <| .required hid) (by decide)

theorem InteracETransfer.fitsIn {d : InteracETransfer} (h : d.check = .ok ()) :
    layout.FitsIn [] d 6144 := by
  unfold check at h
  simp only [bind_unit_eq_ok] at h
  obtain ⟨hname, hemail, hquestion, hanswer⟩ := h
  exact .reshape (by decide)
    (.both (.required hname) <| .both (.email hemail) <|
     .both (.required hquestion) <| .required hanswer) (by decide)

theorem HalCash.fitsIn {d : HalCash} :
    layout.FitsIn [] d (6144 + room [d.mobileNr]) :=
  .reshape (by decide) .counted (Nat.le_add_left _ _)

theorem FasterPayments.fitsIn {d : FasterPayments} (h : d.check = .ok ()) :
    layout.FitsIn [] d 6144 := by
  unfold check Check.digits at h
  simp only [bind_unit_eq_ok] at h
  obtain ⟨hname, ⟨hsortCode, -⟩, hnr, -⟩ := h
  exact .reshape (by decide)
    (.both (.required hname) <| .both (.required hsortCode) <| .required hnr)
    (by decide)

theorem Sbp.fitsIn {d : Sbp} (h : d.check = .ok ()) :
    layout.FitsIn [] d (6144 + room [d.mobileNumber]) := by
  unfold check at h
  simp only [bind_unit_eq_ok] at h
  obtain ⟨hname, -, hbank⟩ := h
  exact .reshape (by decide)
    (.both (.required hname) <| .both .counted <| .required hbank) (by omega)

theorem CashByMail.fitsIn {d : CashByMail} (h : d.check = .ok ()) :
    layout.FitsIn [] d 6144 := by
  unfold check at h
  simp only [bind_unit_eq_ok] at h
  obtain ⟨haddress, hcontact, hinfo⟩ := h
  exact .reshape (by decide)
    (.both (.required haddress) <| .both (.required hcontact) <|
     .optional hinfo) (by decide)

theorem Revolut.fitsIn {d : Revolut} (h : d.check = .ok ()) :
    layout.FitsIn [] d (6144 + room d.selectedCurrencyCodes) :=
  .reshape (by decide)
    (.both (.required h) <| .texts) (Nat.add_le_add_right (by decide) _)

theorem Uphold.fitsIn {d : Uphold} (h : d.check = .ok ()) :
    layout.FitsIn [] d (6144 + room d.selectedCurrencyCodes) := by
  obtain ⟨hname, hid⟩ := bind_unit_eq_ok.1 h
  exact .reshape (by decide)
    (.both .texts <| .both (.required hname) <| .required hid) (by omega)

theorem UserDefinedFiat.fitsIn {d : UserDefinedFiat} (h : d.check = .ok ()) :
    layout.FitsIn [] d 6144 :=
  .reshape (by decide) (.required h) (by decide)

-- ============================================ instruments of a country

theorem AmazonGiftCard.fitsIn {d : AmazonGiftCard} :
    layout.FitsIn [] d (6144 + room [d.emailOrMobileNr]) :=
  .reshape (by decide) .counted (Nat.le_add_left _ _)

theorem Swish.fitsIn {d : Swish} (h : d.check = .ok ()) :
    layout.FitsIn [] d (6144 + room [d.mobileNr]) := by
  obtain ⟨hname, -⟩ := bind_unit_eq_ok.1 h
  exact .reshape (by decide)
    (.both (.required hname) <| .counted) (Nat.add_le_add_right (by decide) _)

/-- The account number and the bank's code have their lengths by their form. -/
theorem Sepa.fitsIn {country : String} {d : Sepa}
    (h : d.check country = .ok ()) :
    layout.FitsIn [] d (6144 + room d.acceptedCountryCodes) := by
  unfold check at h
  simp only [bind_unit_eq_ok] at h
  obtain ⟨hname, hiban, -, hbic, -⟩ := h
  have hibanSize : d.iban.utf8ByteSize ≤ 34 :=
    (Check.iban_eq_ok.1 (bind_unit_eq_ok.1 hiban).1).1.size.2
  have hbicSize : d.bic.utf8ByteSize ≤ 11 := by
    have := (Check.refuse_eq_ok.1 (Check.refuse_eq_ok.1 hbic).2).1
    omega
  exact .reshape (by decide)
    (.both (.required hname) <| .both (.text hibanSize) <|
     .both (.text hbicSize) <| .texts) (by omega)

theorem Bizum.fitsIn {d : Bizum} :
    layout.FitsIn [] d (6144 + room [d.mobileNr]) :=
  .reshape (by decide) .counted (Nat.le_add_left _ _)

theorem F2f.fitsIn {d : F2f} (h : d.check = .ok ())
    (hcurrency : d.selectedCurrencyCode.utf8ByteSize ≤ 3) :
    layout.FitsIn [] d 6144 := by
  unfold check at h
  simp only [bind_unit_eq_ok] at h
  obtain ⟨hcity, hcontact, hinfo⟩ := h
  exact .reshape (by decide)
    (.both (.text hcurrency) <| .both (.required hcity) <|
     .both (.required hcontact) <| .optional hinfo) (by decide)

theorem Pix.fitsIn {d : Pix} (h : d.check = .ok ()) :
    layout.FitsIn [] d 6144 := by
  obtain ⟨hname, hkey⟩ := bind_unit_eq_ok.1 h
  exact .reshape (by decide)
    (.both (.required hname) <| .required hkey) (by decide)

theorem PromptPay.fitsIn {d : PromptPay} (h : d.check = .ok ()) :
    layout.FitsIn [] d 6144 :=
  .reshape (by decide) (.required h) (by decide)

theorem Strike.fitsIn {d : Strike} (h : d.check = .ok ()) :
    layout.FitsIn [] d 6144 :=
  .reshape (by decide) (.required h) (by decide)

theorem Upi.fitsIn {d : Upi} (h : d.check = .ok ()) : layout.FitsIn [] d 6144 :=
  .reshape (by decide) (.required h) (by decide)

theorem Wise.fitsIn {d : Wise} (h : d.check = .ok ()) :
    layout.FitsIn [] d (6144 + room d.selectedCurrencyCodes) := by
  obtain ⟨hname, hemail⟩ := bind_unit_eq_ok.1 h
  exact .reshape (by decide)
    (.both .texts <| .both (.required hname) <| .email hemail) (by omega)

theorem WiseUsd.fitsIn {d : WiseUsd} (h : d.check = .ok ()) :
    layout.FitsIn [] d 6144 := by
  unfold check at h
  simp only [bind_unit_eq_ok] at h
  obtain ⟨hname, hemail, haddress⟩ := h
  exact .reshape (by decide)
    (.both (.required hname) <| .both (.email hemail) <| .required haddress)
    (by decide)

theorem MoneyGram.fitsIn {d : MoneyGram} (h : d.check = .ok ()) :
    layout.FitsIn [] d (6144 + room d.selectedCurrencyCodes) := by
  unfold check at h
  simp only [bind_unit_eq_ok] at h
  obtain ⟨hname, hemail, hstate⟩ := h
  exact .reshape (by decide)
    (.both .texts <| .both (.required hname) <| .both (.email hemail) <|
     .optional hstate) (by omega)

theorem MoneyBeam.fitsIn {d : MoneyBeam} (h : d.check = .ok ())
    (hcurrency : d.selectedCurrencyCode.utf8ByteSize ≤ 3) :
    layout.FitsIn [] d 6144 := by
  obtain ⟨hname, hid⟩ := bind_unit_eq_ok.1 h
  exact .reshape (by decide)
    (.both (.text hcurrency) <| .both (.required hname) <| .required hid)
    (by decide)

theorem Pin4.fitsIn {d : Pin4} :
    layout.FitsIn [] d (6144 + room [d.mobileNr]) :=
  .reshape (by decide) .counted (Nat.le_add_left _ _)

/-- Fifteen texts of checked length, the most of all. Those on the bank in
between are checked in either case, whether there is a country for it or not. -/
theorem Swift.fitsIn {d : Swift} (h : d.check = .ok ())
    (hcurrency : d.selectedCurrencyCode.utf8ByteSize ≤ 3) :
    layout.FitsIn [] d 6144 := by
  unfold check at h
  simp only [bind_unit_eq_ok] at h
  obtain ⟨hname, hnr, hphone, haddress, hcode, hbank, hbranch, hbankAddress,
    h⟩ := h
  -- The last checks follow one that is made only where there is a country.
  have hcountry : ∀ code ∈ d.intermediaryBankCountryCode,
      code.utf8ByteSize ≤ 2 := by
    intro code hcode
    rw [Option.mem_def.1 hcode] at h
    have hknown := Check.countryCode_eq_ok.1 (bind_unit_eq_ok.1 h).1
    exact Nat.le_of_eq (Country.utf8ByteSize_of_isKnown hknown)
  split at h
  all_goals
    simp only [bind_unit_eq_ok] at h
    obtain ⟨-, hcode', hbank', hbranch', haddress', hmore⟩ := h
    exact .reshape (by decide)
      (.both (.text hcurrency) <| .both (.required hname) <|
       .both (.required hnr) <| .both (.optional hphone) <|
       .both (.required haddress) <| .both (.required hcode) <|
       .both (.required hbank) <| .both (.optional hbranch) <|
       .both (.required hbankAddress) <| .both (.optionalText hcountry) <|
       .both (.optional hcode') <| .both (.optional hbank') <|
       .both (.optional hbranch') <| .both (.optional haddress') <|
       .optional hmore) (by decide)

end FiatAccounts

/-
How the fields of each instrument lie on the wire: one nested message for each
kind, its fields numbered from one in the order in which the instrument lists
them. The country of an instrument is not among them; it stands in the message
around it.
-/
import FiatAccounts.Instrument.CountryBound
import FiatAccounts.Instrument.Flat
import FiatAccounts.Wire.Layout

namespace FiatAccounts

open Wire

def Zelle.layout : Layout Zelle :=
  (Layout.both (.text 1) (.text 2)).reshape
    (fun (holderName, emailOrMobileNr) => ⟨holderName, emailOrMobileNr⟩)
    (fun d => (d.holderName, d.emailOrMobileNr))

def UsPostalMoneyOrder.layout : Layout UsPostalMoneyOrder :=
  (Layout.both (.text 1) (.text 2)).reshape
    (fun (holderName, postalAddress) => ⟨holderName, postalAddress⟩)
    (fun d => (d.holderName, d.postalAddress))

def PayId.layout : Layout PayId :=
  (Layout.both (.text 1) (.text 2)).reshape
    (fun (holderName, payId) => ⟨holderName, payId⟩)
    (fun d => (d.holderName, d.payId))

def InteracETransfer.layout : Layout InteracETransfer :=
  (Layout.both (.text 1) (.both (.text 2) (.both (.text 3) (.text 4)))).reshape
    (fun (holderName, email, question, answer) =>
      ⟨holderName, email, question, answer⟩)
    (fun d => (d.holderName, d.email, d.question, d.answer))

def HalCash.layout : Layout HalCash :=
  (Layout.text 1).reshape (fun mobileNr => ⟨mobileNr⟩) (fun d => d.mobileNr)

def FasterPayments.layout : Layout FasterPayments :=
  (Layout.both (.text 1) (.both (.text 2) (.text 3))).reshape
    (fun (holderName, sortCode, accountNr) =>
      ⟨holderName, sortCode, accountNr⟩)
    (fun d => (d.holderName, d.sortCode, d.accountNr))

def Sbp.layout : Layout Sbp :=
  (Layout.both (.text 1) (.both (.text 2) (.text 3))).reshape
    (fun (holderName, mobileNumber, bankName) =>
      ⟨holderName, mobileNumber, bankName⟩)
    (fun d => (d.holderName, d.mobileNumber, d.bankName))

def CashByMail.layout : Layout CashByMail :=
  (Layout.both (.text 1) (.both (.text 2) (.optionalText 3))).reshape
    (fun (postalAddress, contact, extraInfo) =>
      ⟨postalAddress, contact, extraInfo⟩)
    (fun d => (d.postalAddress, d.contact, d.extraInfo))

def Revolut.layout : Layout Revolut :=
  (Layout.both (.text 1) (.texts 2)).reshape
    (fun (userName, selectedCurrencyCodes) =>
      ⟨userName, selectedCurrencyCodes⟩)
    (fun d => (d.userName, d.selectedCurrencyCodes))

def Uphold.layout : Layout Uphold :=
  (Layout.both (.texts 1) (.both (.text 2) (.text 3))).reshape
    (fun (selectedCurrencyCodes, holderName, accountId) =>
      ⟨selectedCurrencyCodes, holderName, accountId⟩)
    (fun d =>
      (d.selectedCurrencyCodes, d.holderName, d.accountId))

def UserDefinedFiat.layout : Layout UserDefinedFiat :=
  (Layout.text 1).reshape (fun accountData => ⟨accountData⟩)
    (fun d => d.accountData)

def AmazonGiftCard.layout : Layout AmazonGiftCard :=
  (Layout.text 1).reshape (fun emailOrMobileNr => ⟨emailOrMobileNr⟩)
    (fun d => d.emailOrMobileNr)

def Swish.layout : Layout Swish :=
  (Layout.both (.text 1) (.text 2)).reshape
    (fun (holderName, mobileNr) => ⟨holderName, mobileNr⟩)
    (fun d => (d.holderName, d.mobileNr))

def Sepa.layout : Layout Sepa :=
  (Layout.both (.text 1) <| .both (.text 2) <| .both (.text 3) <|
    .texts 4).reshape
    (fun (holderName, iban, bic, acceptedCountryCodes) =>
      ⟨holderName, iban, bic, acceptedCountryCodes⟩)
    (fun d =>
      (d.holderName, d.iban, d.bic, d.acceptedCountryCodes))

def Bizum.layout : Layout Bizum :=
  (Layout.text 1).reshape (fun mobileNr => ⟨mobileNr⟩) (fun d => d.mobileNr)

def F2f.layout : Layout F2f :=
  (Layout.both (.text 1) <| .both (.text 2) <| .both (.text 3) <|
    .optionalText 4).reshape
    (fun (selectedCurrencyCode, city, contact, extraInfo) =>
      ⟨selectedCurrencyCode, city, contact, extraInfo⟩)
    (fun d =>
      (d.selectedCurrencyCode, d.city, d.contact, d.extraInfo))

def Pix.layout : Layout Pix :=
  (Layout.both (.text 1) (.text 2)).reshape
    (fun (holderName, pixKey) => ⟨holderName, pixKey⟩)
    (fun d => (d.holderName, d.pixKey))

def PromptPay.layout : Layout PromptPay :=
  (Layout.text 1).reshape (fun promptPayId => ⟨promptPayId⟩)
    (fun d => d.promptPayId)

def Strike.layout : Layout Strike :=
  (Layout.text 1).reshape (fun holderName => ⟨holderName⟩)
    (fun d => d.holderName)

def Upi.layout : Layout Upi :=
  (Layout.text 1).reshape
    (fun virtualPaymentAddress => ⟨virtualPaymentAddress⟩)
    (fun d => d.virtualPaymentAddress)

def Wise.layout : Layout Wise :=
  (Layout.both (.texts 1) (.both (.text 2) (.text 3))).reshape
    (fun (selectedCurrencyCodes, holderName, email) =>
      ⟨selectedCurrencyCodes, holderName, email⟩)
    (fun d => (d.selectedCurrencyCodes, d.holderName, d.email))

def WiseUsd.layout : Layout WiseUsd :=
  (Layout.both (.text 1) (.both (.text 2) (.text 3))).reshape
    (fun (holderName, email, beneficiaryAddress) =>
      ⟨holderName, email, beneficiaryAddress⟩)
    (fun d => (d.holderName, d.email, d.beneficiaryAddress))

def MoneyGram.layout : Layout MoneyGram :=
  (Layout.both (.texts 1) <| .both (.text 2) <| .both (.text 3) <|
    .optionalText 4).reshape
    (fun (selectedCurrencyCodes, holderName, email, state) =>
      ⟨selectedCurrencyCodes, holderName, email, state⟩)
    (fun d =>
      (d.selectedCurrencyCodes, d.holderName, d.email, d.state))

def MoneyBeam.layout : Layout MoneyBeam :=
  (Layout.both (.text 1) (.both (.text 2) (.text 3))).reshape
    (fun (selectedCurrencyCode, holderName, accountId) =>
      ⟨selectedCurrencyCode, holderName, accountId⟩)
    (fun d =>
      (d.selectedCurrencyCode, d.holderName, d.accountId))

def Pin4.layout : Layout Pin4 :=
  (Layout.text 1).reshape (fun mobileNr => ⟨mobileNr⟩) (fun d => d.mobileNr)

def Swift.layout : Layout Swift :=
  (Layout.both (.text 1) <| .both (.text 2) <| .both (.text 3) <|
    .both (.optionalText 4) <| .both (.text 5) <| .both (.text 6) <|
    .both (.text 7) <| .both (.optionalText 8) <| .both (.text 9) <|
    .both (.optionalText 10) <| .both (.optionalText 11) <|
    .both (.optionalText 12) <| .both (.optionalText 13) <|
    .both (.optionalText 14) <| .optionalText 15).reshape
    (fun
      (selectedCurrencyCode, beneficiaryName, beneficiaryAccountNr,
       beneficiaryPhone, beneficiaryAddress, bankSwiftCode, bankName,
       bankBranch, bankAddress, intermediaryBankCountryCode,
       intermediaryBankSwiftCode, intermediaryBankName, intermediaryBankBranch,
       intermediaryBankAddress, additionalInstructions) =>
      ⟨selectedCurrencyCode, beneficiaryName, beneficiaryAccountNr,
       beneficiaryPhone, beneficiaryAddress, bankSwiftCode, bankName,
       bankBranch, bankAddress, intermediaryBankCountryCode,
       intermediaryBankSwiftCode, intermediaryBankName, intermediaryBankBranch,
       intermediaryBankAddress, additionalInstructions⟩)
    (fun d =>
      (d.selectedCurrencyCode, d.beneficiaryName, d.beneficiaryAccountNr,
       d.beneficiaryPhone, d.beneficiaryAddress, d.bankSwiftCode, d.bankName,
       d.bankBranch, d.bankAddress, d.intermediaryBankCountryCode,
       d.intermediaryBankSwiftCode, d.intermediaryBankName,
       d.intermediaryBankBranch, d.intermediaryBankAddress,
       d.additionalInstructions))

end FiatAccounts

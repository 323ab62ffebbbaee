/-
The messages of this library are faithful.

Each proof repeats the shape of its layout, and what is left to see is that its
numbers differ. The depths add up along the way from an account to the fields of
a bank account: an account holds a payload, that the instruments of a country,
that a bank account and that the fields of its kind. No message nests deeper
than five, far from the limit.

The messages of a payload and of an account hold no lists of their own, so the
order of their fields makes no difference (`Payload.layout_unordered`).
-/
import FiatAccounts.Message.Account
import FiatAccounts.Message.Witness
import FiatAccounts.Proofs.Wire.Unordered

namespace FiatAccounts

open Wire Wire.Layout

variable {depth : Nat}

-- =============================================== instruments of no country

theorem Zelle.layout_faithful : Zelle.layout.Faithful depth :=
  .reshape (by decide) (fun _ => rfl) (fun _ => rfl) <| .both .text <| .text

theorem UsPostalMoneyOrder.layout_faithful :
    UsPostalMoneyOrder.layout.Faithful depth :=
  .reshape (by decide) (fun _ => rfl) (fun _ => rfl) <| .both .text <| .text

theorem PayId.layout_faithful : PayId.layout.Faithful depth :=
  .reshape (by decide) (fun _ => rfl) (fun _ => rfl) <| .both .text <| .text

theorem InteracETransfer.layout_faithful :
    InteracETransfer.layout.Faithful depth :=
  .reshape (by decide) (fun _ => rfl) (fun _ => rfl) <| .both .text <|
    .both .text <| .both .text <| .text

theorem HalCash.layout_faithful : HalCash.layout.Faithful depth :=
  .reshape (by decide) (fun _ => rfl) (fun _ => rfl) <| .text

theorem FasterPayments.layout_faithful : FasterPayments.layout.Faithful depth :=
  .reshape (by decide) (fun _ => rfl) (fun _ => rfl) <| .both .text <|
    .both .text <| .text

theorem Sbp.layout_faithful : Sbp.layout.Faithful depth :=
  .reshape (by decide) (fun _ => rfl) (fun _ => rfl) <| .both .text <|
    .both .text <| .text

theorem CashByMail.layout_faithful : CashByMail.layout.Faithful depth :=
  .reshape (by decide) (fun _ => rfl) (fun _ => rfl) <| .both .text <|
    .both .text <| .optionalText

theorem Revolut.layout_faithful : Revolut.layout.Faithful depth :=
  .reshape (by decide) (fun _ => rfl) (fun _ => rfl) <| .both .text <| .texts

theorem Uphold.layout_faithful : Uphold.layout.Faithful depth :=
  .reshape (by decide) (fun _ => rfl) (fun _ => rfl) <| .both .texts <|
    .both .text <| .text

theorem UserDefinedFiat.layout_faithful :
    UserDefinedFiat.layout.Faithful depth :=
  .reshape (by decide) (fun _ => rfl) (fun _ => rfl) <| .text

-- ============================================ instruments of a country

theorem AmazonGiftCard.layout_faithful : AmazonGiftCard.layout.Faithful depth :=
  .reshape (by decide) (fun _ => rfl) (fun _ => rfl) <| .text

theorem Swish.layout_faithful : Swish.layout.Faithful depth :=
  .reshape (by decide) (fun _ => rfl) (fun _ => rfl) <| .both .text <| .text

theorem Sepa.layout_faithful : Sepa.layout.Faithful depth :=
  .reshape (by decide) (fun _ => rfl) (fun _ => rfl) <| .both .text <|
    .both .text <| .both .text <| .texts

theorem Bizum.layout_faithful : Bizum.layout.Faithful depth :=
  .reshape (by decide) (fun _ => rfl) (fun _ => rfl) <| .text

theorem F2f.layout_faithful : F2f.layout.Faithful depth :=
  .reshape (by decide) (fun _ => rfl) (fun _ => rfl) <| .both .text <|
    .both .text <| .both .text <| .optionalText

theorem Pix.layout_faithful : Pix.layout.Faithful depth :=
  .reshape (by decide) (fun _ => rfl) (fun _ => rfl) <| .both .text <| .text

theorem PromptPay.layout_faithful : PromptPay.layout.Faithful depth :=
  .reshape (by decide) (fun _ => rfl) (fun _ => rfl) <| .text

theorem Strike.layout_faithful : Strike.layout.Faithful depth :=
  .reshape (by decide) (fun _ => rfl) (fun _ => rfl) <| .text

theorem Upi.layout_faithful : Upi.layout.Faithful depth :=
  .reshape (by decide) (fun _ => rfl) (fun _ => rfl) <| .text

theorem Wise.layout_faithful : Wise.layout.Faithful depth :=
  .reshape (by decide) (fun _ => rfl) (fun _ => rfl) <| .both .texts <|
    .both .text <| .text

theorem WiseUsd.layout_faithful : WiseUsd.layout.Faithful depth :=
  .reshape (by decide) (fun _ => rfl) (fun _ => rfl) <| .both .text <|
    .both .text <| .text

theorem MoneyGram.layout_faithful : MoneyGram.layout.Faithful depth :=
  .reshape (by decide) (fun _ => rfl) (fun _ => rfl) <| .both .texts <|
    .both .text <| .both .text <| .optionalText

theorem MoneyBeam.layout_faithful : MoneyBeam.layout.Faithful depth :=
  .reshape (by decide) (fun _ => rfl) (fun _ => rfl) <| .both .text <|
    .both .text <| .text

theorem Pin4.layout_faithful : Pin4.layout.Faithful depth :=
  .reshape (by decide) (fun _ => rfl) (fun _ => rfl) <| .text

theorem Swift.layout_faithful : Swift.layout.Faithful depth :=
  .reshape (by decide) (fun _ => rfl) (fun _ => rfl) <| .both .text <|
    .both .text <| .both .text <| .both .optionalText <| .both .text <|
    .both .text <| .both .text <| .both .optionalText <| .both .text <|
    .both .optionalText <| .both .optionalText <| .both .optionalText <|
    .both .optionalText <| .both .optionalText <| .optionalText

namespace Message

-- ============================================================ payloads

/-- The one field of a kind of bank account. -/
private theorem faithful_optionalText :
    (Layout.optionalText 1).Faithful depth :=
  Lawful.optionalText.faithful (by decide)

/-- A kind of bank account adds one text, which may be absent, or nothing. -/
theorem BankArm.arms_lawful :
    ∀ arm ∈ BankArm.arms, arm.Lawful (depth + 1) := by
  simp only [BankArm.arms, List.forall_mem_cons]
  refine ⟨.of faithful_optionalText ?_, .of .nothing ?_,
    .of faithful_optionalText ?_, .of .nothing ?_, .of faithful_optionalText ?_,
    List.forall_mem_nil _⟩
  all_goals
    intro a b h
    split at h <;> cases h
    rfl

theorem Bank.layout_faithful : Bank.layout.Faithful (depth + 1) :=
  .reshape (by decide) (fun _ => rfl) (fun _ => rfl) <| .both .optionalText <|
    .both .optionalText <| .both .optionalText <| .both .optionalText <|
    .both .optionalText <| .both .text <| .both .optionalText <|
    .both .optionalText <| .both .text <|
    .choice BankArm.arms_lawful (fun arm => by cases arm <;> rfl)

/-- The messages inside a country's are the bank's, which nests once more, and
flat ones. Both kinds of SEPA account are read by one layout. -/
theorem CountryArm.arms_lawful :
    ∀ arm ∈ CountryArm.arms, arm.Lawful (depth + 2) := by
  simp only [CountryArm.arms, List.forall_mem_cons]
  refine ⟨.of Bank.layout_faithful ?_, .of AmazonGiftCard.layout_faithful ?_,
    .of Swish.layout_faithful ?_, .of Sepa.layout_faithful ?_,
    .of Sepa.layout_faithful ?_, .of Bizum.layout_faithful ?_,
    .of F2f.layout_faithful ?_, .of Pix.layout_faithful ?_,
    .of PromptPay.layout_faithful ?_, .of Strike.layout_faithful ?_,
    .of Upi.layout_faithful ?_, .of Wise.layout_faithful ?_,
    .of WiseUsd.layout_faithful ?_, .of MoneyGram.layout_faithful ?_,
    .of MoneyBeam.layout_faithful ?_, .of Pin4.layout_faithful ?_,
    .of Swift.layout_faithful ?_, List.forall_mem_nil _⟩
  all_goals
    intro a b h
    split at h <;> cases h
    rfl

theorem CountryBased.layout_faithful :
    CountryBased.layout.Faithful (depth + 2) :=
  .reshape (by decide) (fun _ => rfl) (fun _ => rfl) <| .both .text <|
    .choice CountryArm.arms_lawful (fun arm => by cases arm <;> rfl)

/-- Of a payload's alternatives only that of a country nests any further. -/
theorem PayloadArm.arms_lawful :
    ∀ arm ∈ PayloadArm.arms, arm.Lawful (depth + 3) := by
  simp only [PayloadArm.arms, List.forall_mem_cons]
  refine ⟨.of Zelle.layout_faithful ?_,
    .of UsPostalMoneyOrder.layout_faithful ?_, .of PayId.layout_faithful ?_,
    .of InteracETransfer.layout_faithful ?_, .of HalCash.layout_faithful ?_,
    .of FasterPayments.layout_faithful ?_, .of Sbp.layout_faithful ?_,
    .of CashByMail.layout_faithful ?_, .of Revolut.layout_faithful ?_,
    .of Uphold.layout_faithful ?_, .of UserDefinedFiat.layout_faithful ?_,
    .of CountryBased.layout_faithful ?_, List.forall_mem_nil _⟩
  all_goals
    intro a b h
    split at h <;> cases h
    rfl

/-- The numbers that a payload's message declares: the choice has those from
ten. -/
def Payload.numbers : List Nat :=
  [1, 2, 10, 11, 12, 13, 14, 15, 16, 17, 18, 19, 20, 30]

/-- A payload's message is two fields and a choice, none of them a list. -/
theorem Payload.layout_unordered :
    Payload.layout.Unordered Payload.numbers (depth + 3) :=
  Unordered.reshape
    (.both .text <| .both .blob <|
      .choice PayloadArm.arms_lawful (fun arm => by cases arm <;> rfl))
    (fun _ => rfl) (fun _ => rfl)

theorem Payload.layout_lawful :
    Payload.layout.Lawful Payload.numbers (depth + 3) :=
  Payload.layout_unordered.toLawful

theorem Payload.layout_faithful : Payload.layout.Faithful (depth + 3) :=
  Payload.layout_lawful.faithful (by decide)

-- ============================================================ accounts

theorem BankAccountArm.arms_lawful :
    ∀ arm ∈ BankAccountArm.arms, arm.Lawful (depth + 1) := by
  simp only [BankAccountArm.arms, List.forall_mem_cons]
  refine ⟨.of .nothing ?_, .of .nothing ?_, .of .nothing ?_, .of .nothing ?_,
    .of .nothing ?_, List.forall_mem_nil _⟩
  all_goals
    intro a b h
    split at h <;> cases h
    rfl

/-- What an account says of its kind is a choice between messages without
fields. -/
theorem BankAccountArm.choice_faithful :
    (choice BankAccountArm.arms).Faithful (depth + 1) :=
  Lawful.faithful
    (.choice BankAccountArm.arms_lawful (fun arm => by cases arm <;> rfl))
    (by decide)

theorem CountryAccountArm.arms_lawful :
    ∀ arm ∈ CountryAccountArm.arms, arm.Lawful (depth + 2) := by
  simp only [CountryAccountArm.arms, List.forall_mem_cons]
  refine ⟨.of BankAccountArm.choice_faithful ?_, .of .nothing ?_,
    .of .nothing ?_, .of .nothing ?_, .of .nothing ?_, .of .nothing ?_,
    .of .nothing ?_, .of .nothing ?_, .of .nothing ?_, .of .nothing ?_,
    .of .nothing ?_, .of .nothing ?_, .of .nothing ?_, .of .nothing ?_,
    .of .nothing ?_, .of .nothing ?_, .of .nothing ?_, List.forall_mem_nil _⟩
  all_goals
    intro a b h
    split at h <;> cases h
    rfl

theorem CountryAccountArm.choice_faithful :
    (choice CountryAccountArm.arms).Faithful (depth + 2) :=
  Lawful.faithful
    (.choice CountryAccountArm.arms_lawful (fun arm => by cases arm <;> rfl))
    (by decide)

theorem AccountArm.arms_lawful :
    ∀ arm ∈ AccountArm.arms, arm.Lawful (depth + 3) := by
  simp only [AccountArm.arms, List.forall_mem_cons]
  refine ⟨.of .nothing ?_, .of .nothing ?_, .of .nothing ?_, .of .nothing ?_,
    .of .nothing ?_, .of .nothing ?_, .of .nothing ?_, .of .nothing ?_,
    .of .nothing ?_, .of .nothing ?_, .of .nothing ?_,
    .of CountryAccountArm.choice_faithful ?_, List.forall_mem_nil _⟩
  all_goals
    intro a b h
    split at h <;> cases h
    rfl

theorem Signing.layout_faithful : Signing.layout.Faithful depth :=
  .reshape (by decide) (fun _ => rfl) (fun _ => rfl) <| .both .blob <|
    .both .blob <| .both .text <| .text

/-- The numbers that an account's message declares. -/
def Account.numbers : List Nat :=
  [1, 2, 3, 4, 5, 10, 11, 12, 13, 14, 15, 16, 17, 18, 19, 20, 30]

/-- An account's message has two messages in it, a payload and a key, and no
list. -/
theorem Account.layout_unordered :
    Account.layout.Unordered Account.numbers (depth + 4) :=
  Unordered.reshape
    (.both .text <| .both .millis <| .both .text <|
      .both (.message Payload.layout_faithful) <|
      .both (.message Signing.layout_faithful) <|
      .choice AccountArm.arms_lawful (fun arm => by cases arm <;> rfl))
    (fun _ => rfl) (fun _ => rfl)

theorem Account.layout_lawful :
    Account.layout.Lawful Account.numbers (depth + 4) :=
  Account.layout_unordered.toLawful

theorem Account.layout_faithful : Account.layout.Faithful (depth + 4) :=
  Account.layout_lawful.faithful (by decide)

-- ================================================== bytes and messages

section

variable {m m' : Payload} {n n' : Account}

/-- The message of a payload is read from its bytes, which have to be counted by
64 bits. -/
theorem Payload.decode?_encode
    (fits : (Payload.layout.encode m).length < UInt64.size) :
    Payload.layout.decode? (Payload.layout.encode m) = some m := by
  have faithful : Payload.layout.Faithful (0 + 3) := Payload.layout_faithful
  exact faithful.decode?_encode (by decide) fits

/-- Its bytes are those of no other message, whatever their count. -/
theorem Payload.encode_inj
    (h : Payload.layout.encode m = Payload.layout.encode m') : m = m' := by
  have faithful : Payload.layout.Faithful (0 + 3) := Payload.layout_faithful
  exact faithful.encode_inj h

/-- The message of an account is read from its bytes, which have to be counted
by 64 bits. -/
theorem Account.decode?_encode
    (fits : (Account.layout.encode n).length < UInt64.size) :
    Account.layout.decode? (Account.layout.encode n) = some n := by
  have faithful : Account.layout.Faithful (0 + 4) := Account.layout_faithful
  exact faithful.decode?_encode (by decide) fits

/-- Its bytes are those of no other message either. -/
theorem Account.encode_inj
    (h : Account.layout.encode n = Account.layout.encode n') : n = n' := by
  have faithful : Account.layout.Faithful (0 + 4) := Account.layout_faithful
  exact faithful.encode_inj h

end

-- =========================================================== witnesses

theorem AgeWitness.layout_faithful : AgeWitness.layout.Faithful depth :=
  .reshape (by decide) (fun _ => rfl) (fun _ => rfl) <| .both .blob <| .millis

theorem AccountTimestamp.layout_faithful :
    AccountTimestamp.layout.Faithful depth :=
  .reshape (by decide) (fun _ => rfl) (fun _ => rfl) <| .both .blob <| .millis

end Message

end FiatAccounts

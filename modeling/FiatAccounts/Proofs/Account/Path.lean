/-
Paths: the names of the constructors that lead to a kind of payment instrument,
from the outside in.

Four hierarchies repeat each other. Instruments and accounts are what a program
holds, the choices of a payload's message and of an account's message are what
is sent. Each has paths of its own, and a choice that is left open on the way
has none. An account's path is its instrument's, and what is written of either
spells the same path again.

A reader of messages never looks at a path. It compares rails, and that is as
good, because rails and paths name each other (`Message.AccountArm.rail_eq_iff`):
no two kinds share a rail and no two rails share a path.
-/
import FiatAccounts.Proofs.Account.Message

namespace FiatAccounts

-- ========================================================= instruments

def BankInstrument.path : BankInstrument → List String
  | .achTransfer _ => ["AchTransfer"]
  | .nationalBank _ => ["NationalBank"]
  | .cashDeposit _ => ["CashDeposit"]
  | .sameBank _ => ["SameBank"]
  | .domesticWireTransfer _ => ["DomesticWireTransfer"]

def CountryInstrument.path : CountryInstrument → List String
  | .bank b => "Bank" :: b.path
  | .amazonGiftCard _ => ["AmazonGiftCard"]
  | .swish _ => ["Swish"]
  | .sepa _ => ["Sepa"]
  | .sepaInstant _ => ["SepaInstant"]
  | .bizum _ => ["Bizum"]
  | .f2f _ => ["F2f"]
  | .pix _ => ["Pix"]
  | .promptPay _ => ["PromptPay"]
  | .strike _ => ["Strike"]
  | .upi _ => ["Upi"]
  | .wise _ => ["Wise"]
  | .wiseUsd _ => ["WiseUsd"]
  | .moneyGram _ => ["MoneyGram"]
  | .moneyBeam _ => ["MoneyBeam"]
  | .pin4 _ => ["Pin4"]
  | .swift _ => ["Swift"]

/-- The names of the constructors, from the outside in. -/
def Instrument.path : Instrument → List String
  | .zelle _ => ["Zelle"]
  | .usPostalMoneyOrder _ => ["UsPostalMoneyOrder"]
  | .payId _ => ["PayId"]
  | .interacETransfer _ => ["InteracETransfer"]
  | .halCash _ => ["HalCash"]
  | .fasterPayments _ => ["FasterPayments"]
  | .sbp _ => ["Sbp"]
  | .cashByMail _ => ["CashByMail"]
  | .revolut _ => ["Revolut"]
  | .uphold _ => ["Uphold"]
  | .userDefinedFiat _ => ["UserDefinedFiat"]
  | .countryBased c => "CountryBased" :: c.path

-- ==================================== the choices of a payload's message

namespace Message

def BankArm.path : BankArm → List String
  | .achTransfer _ => ["AchTransfer"]
  | .nationalBank => ["NationalBank"]
  | .cashDeposit _ => ["CashDeposit"]
  | .sameBank => ["SameBank"]
  | .domesticWireTransfer _ => ["DomesticWireTransfer"]

def CountryArm.path? : CountryArm → Option (List String)
  | .bank m => m.arm.map fun arm => "Bank" :: arm.path
  | .amazonGiftCard _ => some ["AmazonGiftCard"]
  | .swish _ => some ["Swish"]
  | .sepa _ => some ["Sepa"]
  | .sepaInstant _ => some ["SepaInstant"]
  | .bizum _ => some ["Bizum"]
  | .f2f _ => some ["F2f"]
  | .pix _ => some ["Pix"]
  | .promptPay _ => some ["PromptPay"]
  | .strike _ => some ["Strike"]
  | .upi _ => some ["Upi"]
  | .wise _ => some ["Wise"]
  | .wiseUsd _ => some ["WiseUsd"]
  | .moneyGram _ => some ["MoneyGram"]
  | .moneyBeam _ => some ["MoneyBeam"]
  | .pin4 _ => some ["Pin4"]
  | .swift _ => some ["Swift"]

def PayloadArm.path? : PayloadArm → Option (List String)
  | .zelle _ => some ["Zelle"]
  | .usPostalMoneyOrder _ => some ["UsPostalMoneyOrder"]
  | .payId _ => some ["PayId"]
  | .interacETransfer _ => some ["InteracETransfer"]
  | .halCash _ => some ["HalCash"]
  | .fasterPayments _ => some ["FasterPayments"]
  | .sbp _ => some ["Sbp"]
  | .cashByMail _ => some ["CashByMail"]
  | .revolut _ => some ["Revolut"]
  | .uphold _ => some ["Uphold"]
  | .userDefinedFiat _ => some ["UserDefinedFiat"]
  | .countryBased m => do
    let arm ← m.arm
    let path ← arm.path?
    pure ("CountryBased" :: path)

/-- The path that the message's choices spell, if none of them is open. -/
def Payload.path? (m : Payload) : Option (List String) := do
  let arm ← m.arm
  arm.path?

-- =================================== the choices of an account's message

def BankAccountArm.path : BankAccountArm → List String
  | .achTransfer => ["AchTransfer"]
  | .nationalBank => ["NationalBank"]
  | .cashDeposit => ["CashDeposit"]
  | .sameBank => ["SameBank"]
  | .domesticWireTransfer => ["DomesticWireTransfer"]

def CountryAccountArm.path? : CountryAccountArm → Option (List String)
  | .bank arm => arm.map fun arm => "Bank" :: arm.path
  | .amazonGiftCard => some ["AmazonGiftCard"]
  | .swish => some ["Swish"]
  | .sepa => some ["Sepa"]
  | .sepaInstant => some ["SepaInstant"]
  | .bizum => some ["Bizum"]
  | .f2f => some ["F2f"]
  | .pix => some ["Pix"]
  | .promptPay => some ["PromptPay"]
  | .strike => some ["Strike"]
  | .upi => some ["Upi"]
  | .wise => some ["Wise"]
  | .wiseUsd => some ["WiseUsd"]
  | .moneyGram => some ["MoneyGram"]
  | .moneyBeam => some ["MoneyBeam"]
  | .pin4 => some ["Pin4"]
  | .swift => some ["Swift"]

def AccountArm.path? : AccountArm → Option (List String)
  | .zelle => some ["Zelle"]
  | .usPostalMoneyOrder => some ["UsPostalMoneyOrder"]
  | .payId => some ["PayId"]
  | .interacETransfer => some ["InteracETransfer"]
  | .halCash => some ["HalCash"]
  | .fasterPayments => some ["FasterPayments"]
  | .sbp => some ["Sbp"]
  | .cashByMail => some ["CashByMail"]
  | .revolut => some ["Revolut"]
  | .uphold => some ["Uphold"]
  | .userDefinedFiat => some ["UserDefinedFiat"]
  | .countryBased arm => do
    let arm ← arm
    let path ← arm.path?
    pure ("CountryBased" :: path)

/-- The path that the message's choices spell, if none of them is open. -/
def Account.path? (m : Account) : Option (List String) := do
  let arm ← m.arm
  arm.path?

end Message

-- ======================================================== what is written

/-- The choice that is written of a country's instrument spells its path, one
level longer for a bank transfer. -/
theorem CountryInstrument.path_arm (c : CountryInstrument) :
    c.arm.path? = some c.path := by
  cases c
  case bank b => cases b <;> rfl
  all_goals rfl

/-- The choice that is written of an instrument spells its path. -/
theorem Instrument.path_arm (i : Instrument) : i.arm.path? = some i.path := by
  cases i
  case countryBased c =>
    unfold arm Message.PayloadArm.path? path
    simp only [CountryInstrument.toMessage, Option.bind_eq_bind,
      Option.bind_some, c.path_arm, Option.pure_def]
  all_goals rfl

/-- The message of a payload spells the path of its instrument. -/
theorem Payload.path_toMessage (p : Payload Instrument) :
    p.toMessage.path? = some p.instrument.path :=
  p.instrument.path_arm

namespace PaymentAccount

/-- The choice that is written of an account spells the account's path. -/
theorem path_arm (a : PaymentAccount) : a.arm.path? = some a.path := by
  cases a
  case countryBased c =>
    cases c
    case bank b => cases b <;> rfl
    all_goals rfl
  all_goals rfl

/-- An account holds an instrument of its own kind. -/
theorem path_payload (a : PaymentAccount) :
    a.payload.instrument.path = a.path := by
  cases a
  case countryBased c =>
    cases c
    case bank b => cases b <;> rfl
    all_goals rfl
  all_goals rfl

end PaymentAccount

-- ======================================================== rails and paths

/-- The path to the kind of account that a rail stands for. -/
def Rail.path? (rail : Rail) : Option (List String) := do
  let arm ← Message.AccountArm.ofRail? rail
  arm.path?

/-- Every rail that stands for a kind of account is found by its path. -/
theorem Rail.find?_path {rail : Rail} (h : rail.path?.isSome) :
    Rail.all.find? (fun other => other.path? == rail.path?) = some rail := by
  cases rail
  case advancedCash | aliPay | cashApp | imps | mercadoPago | monese | neft
      | paysera | perfectMoney | satispay | verse | wechatPay => cases h
  all_goals rfl

/-- No two rails share a path. -/
theorem Rail.eq_of_path {rail other : Rail} {path : List String}
    (h : rail.path? = some path) (hother : other.path? = some path) :
    rail = other := by
  have hfound := find?_path (Option.isSome_of_mem h)
  have hfound' := find?_path (Option.isSome_of_mem hother)
  rw [h] at hfound
  rw [hother, hfound] at hfound'
  exact Option.some.inj hfound'

namespace Message

/-- A choice among the country accounts that spells a path names a rail. -/
theorem CountryAccountArm.rail_of_path? {arm : CountryAccountArm}
    {path : List String} (h : arm.path? = some path) :
    ∃ rail, arm.rail = .ok rail := by
  cases arm
  case bank arm =>
    obtain ⟨arm, rfl, -⟩ := Option.map_eq_some_iff.1 h
    exact ⟨arm.rail, rfl⟩
  all_goals exact ⟨_, rfl⟩

/-- A choice that is open nowhere names a rail. -/
theorem AccountArm.rail_of_path? {arm : AccountArm} {path : List String}
    (h : arm.path? = some path) : ∃ rail, arm.rail = .ok rail := by
  cases arm
  case countryBased arm =>
    obtain ⟨arm, rfl, h⟩ := Option.bind_eq_some_iff.1 h
    obtain ⟨path, h, -⟩ := Option.bind_eq_some_iff.1 h
    exact CountryAccountArm.rail_of_path? h
  all_goals exact ⟨_, rfl⟩

/-- The rail that a choice names has the path that the choice spells. -/
theorem AccountArm.path?_rail {arm : AccountArm} {rail : Rail}
    (h : arm.rail = .ok rail) : rail.path? = arm.path? := by
  unfold Rail.path?
  rw [ofRail?_of_rail h]
  rfl

end Message

/-- The rail of an account stands for the account's own kind. -/
theorem PaymentAccount.path?_rail (a : PaymentAccount) :
    a.rail.path? = some a.path := by
  rw [Message.AccountArm.path?_rail a.rail_arm, a.path_arm]

/-- A choice names the rail of an account exactly when it spells the account's
path. -/
theorem Message.AccountArm.rail_eq_iff {arm : AccountArm}
    {a : PaymentAccount} :
    arm.rail = .ok a.rail ↔ arm.path? = some a.path := by
  constructor
  · intro h
    rw [← path?_rail h, a.path?_rail]
  · intro h
    obtain ⟨rail, hrail⟩ := rail_of_path? h
    have hpath : rail.path? = some a.path := by rw [path?_rail hrail, h]
    rw [hrail, Rail.eq_of_path hpath a.path?_rail]

end FiatAccounts

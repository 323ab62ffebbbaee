/-
Which kinds of refusal there are: of bad input, and of bad bytes.

Whoever makes a payload is refused for a value, and can mend it. Bytes can be
refused for more: they are no message, a choice in them is open or unknown, or
they lack a field.

The rules that ask for a field are those of the transfers of the United States,
and makers and readers run the same rules. So it is not the rules that keep a
maker from hearing of a missing field. It is what a maker puts in: all that the
rules ask for (`UsTransfer.not_lacks_ofHolder`). A reader puts in what the bytes
have, and what it reports as missing is missing there
(`Payload.ofBytes_of_ofMessage`).
-/
import FiatAccounts.Proofs.Account.Refusal
import FiatAccounts.Proofs.Codec.Obtained
import FiatAccounts.Proofs.Instrument.Bank

namespace FiatAccounts

-- ====================================================== missing fields

namespace Message

/-- The transfers of the United States, under the names that refusals give
them. -/
def BankArm.usTransfer? : BankArm → Option String
  | .achTransfer _ => some "AchTransfer"
  | .domesticWireTransfer _ => some "DomesticWireTransfer"
  | .nationalBank => none
  | .cashDeposit _ => none
  | .sameBank => none

/-- A transfer of the United States is without a field that it has to have. The
id of its bank is named as what it holds, the routing number. -/
inductive Bank.Lacks (m : Bank) : (variant field : String) → Prop where
  | holderName {variant : String}
      (us : m.arm.bind BankArm.usTransfer? = some variant)
      (absent : m.holderName = none) :
    Lacks m variant "holder_name"
  | bankName {variant : String}
      (us : m.arm.bind BankArm.usTransfer? = some variant)
      (absent : m.bankName = none) :
    Lacks m variant "bank_name"
  | routingNr {variant : String}
      (us : m.arm.bind BankArm.usTransfer? = some variant)
      (absent : m.bankId = none) :
    Lacks m variant "routing_nr"
  | accountType {holderAddress : Option String}
      (ach : m.arm = some (.achTransfer holderAddress))
      (absent : m.accountType = none) :
    Lacks m "AchTransfer" "bank_account_type"

/-- Whatever lacks something is a transfer of the United States. -/
theorem Bank.Lacks.us {m : Bank} {variant field : String}
    (h : m.Lacks variant field) :
    m.arm.bind BankArm.usTransfer? = some variant := by
  cases h with
  | holderName us absent | bankName us absent | routingNr us absent => exact us
  | accountType ach absent =>
      rw [ach]
      rfl

/-- The choice is such a bank account. -/
inductive PayloadArm.Lacks : PayloadArm → (variant field : String) → Prop where
  | bank {country : String} {m : Bank} {variant field : String}
      (lacks : m.Lacks variant field) :
    Lacks (.countryBased ⟨country, some (.bank m)⟩) variant field

/-- The message is that of such a bank account. -/
def Payload.Lacks (m : Payload) (variant field : String) : Prop :=
  ∃ arm, m.arm = some arm ∧ arm.Lacks variant field

/-- An account lacks its payload, or a field inside it. -/
inductive Account.Lacks (m : Account) : (variant field : String) → Prop where
  | payload (absent : m.payload = none) : Lacks m "Account" "account_payload"
  | field {written : Payload} {variant field : String}
      (present : m.payload = some written)
      (lacks : written.Lacks variant field) :
    Lacks m variant field

end Message

-- ================================================== kinds of refusal

namespace AccountError

/-- What rules refuse: a value, or that there is none. -/
inductive OfRules (Lacks : String → String → Prop) : AccountError → Prop where
  | value (fault : FieldFault) : OfRules Lacks (.fieldValidation fault)
  | missing {variant field : String} (lacks : Lacks variant field) :
    OfRules Lacks (.missingRequiredField variant field)

/-- What bytes are refused for: what rules refuse, and what no rule sees. -/
inductive OfBytes (Lacks : String → String → Prop) : AccountError → Prop where
  | rules {e : AccountError} (h : e.OfRules Lacks) : OfBytes Lacks e
  | unresolvableVariant (level detail : String) :
    OfBytes Lacks (.unresolvableVariant level detail)
  | decode (fault : DecodeFault) : OfBytes Lacks (.decode fault)

variable {Lacks Lacks' : String → String → Prop} {e : AccountError}

/-- What is said of a refusal holds with more that can be missing. -/
theorem OfRules.mono (h : e.OfRules Lacks)
    (weaken : ∀ variant field, Lacks variant field → Lacks' variant field) :
    e.OfRules Lacks' := by
  cases h with
  | value fault => exact .value fault
  | missing lacks => exact .missing (weaken _ _ lacks)

/-- Where nothing is missing, rules refuse values. -/
theorem OfRules.exists_fault (h : e.OfRules Lacks)
    (whole : ∀ variant field, ¬Lacks variant field) :
    ∃ fault, e = .fieldValidation fault := by
  cases h with
  | value fault => exact ⟨fault, rfl⟩
  | missing lacks => exact absurd lacks (whole _ _)

theorem OfBytes.mono (h : e.OfBytes Lacks)
    (weaken : ∀ variant field, Lacks variant field → Lacks' variant field) :
    e.OfBytes Lacks' := by
  cases h with
  | rules h => exact .rules (h.mono weaken)
  | unresolvableVariant level detail => exact .unresolvableVariant level detail
  | decode fault => exact .decode fault

/-- What bytes are refused for as missing is missing. -/
theorem OfBytes.lacks {variant field : String}
    (h : OfBytes Lacks (.missingRequiredField variant field)) :
    Lacks variant field := by
  cases h with
  | rules h =>
      cases h with
      | missing lacks => exact lacks

/-- A check refuses a value. -/
theorem OfRules.of_raise {check : Check} (h : check.raise = .error e) :
    e.OfRules Lacks := by
  cases check with
  | ok _ => cases h
  | error fault =>
      cases h
      exact .value fault

end AccountError

-- ============================================================== rules

namespace UsTransfer

/-- A field that is asked for is reported exactly if it is absent. -/
theorem need_eq_error {variant field : String} {found : Option String}
    {e : AccountError} :
    need variant field found = .error e
      ↔ found = none ∧ e = .missingRequiredField variant field := by
  cases found <;> simp [need, eq_comm]

/-- A transfer of the United States is refused for a value or for what is
missing in its message. -/
theorem ofRules_of_verifyShared {b : BankInstrument} {variant : String}
    {d : UsTransfer} {e : AccountError} (hd : b.details = d.bank)
    (us : b.arm.usTransfer? = some variant)
    (h : d.verifyShared variant = .error e) :
    e.OfRules b.toMessage.Lacks := by
  -- one case for each step, in the order of the rules
  unfold verifyShared at h
  rcases bind_eq_error.1 h with h | ⟨_, -, h⟩
  · exact .of_raise h
  rcases bind_eq_error.1 h with h | ⟨_, -, h⟩
  · exact .of_raise h
  rcases bind_eq_error.1 h with h | ⟨holderName, -, h⟩
  · obtain ⟨habsent, rfl⟩ := need_eq_error.1 h
    rw [← hd] at habsent
    exact .missing (.holderName us habsent)
  rcases bind_eq_error.1 h with h | ⟨_, -, h⟩
  · exact .of_raise h
  rcases bind_eq_error.1 h with h | ⟨_, -, h⟩
  · obtain ⟨habsent, rfl⟩ := need_eq_error.1 h
    rw [← hd] at habsent
    exact .missing (.bankName us habsent)
  rcases bind_eq_error.1 h with h | ⟨_, -, h⟩
  · obtain ⟨habsent, rfl⟩ := need_eq_error.1 h
    rw [← hd] at habsent
    exact .missing (.routingNr us habsent)
  rcases bind_eq_error.1 h with h | ⟨_, -, h⟩
  · exact .of_raise h
  · exact .of_raise h

end UsTransfer

namespace BankInstrument

variable {b : BankInstrument} {e : AccountError} {variant field : String}

/-- A bank account that has all that is asked for lacks nothing. -/
theorem not_lacks_of_present (hholder : b.details.holderName ≠ none)
    (hbank : b.details.bankName ≠ none) (hrouting : b.details.bankId ≠ none)
    (hkind : ∀ a, b.arm = .achTransfer a → b.details.accountType ≠ none) :
    ¬b.toMessage.Lacks variant field := by
  intro lacks
  cases lacks with
  | holderName us absent => exact hholder absent
  | bankName us absent => exact hbank absent
  | routingNr us absent => exact hrouting absent
  | accountType ach absent =>
      exact hkind _ (Option.some.inj ach) (Option.map_eq_none_iff.1 absent)

/-- A bank transfer is refused by its own rules for a value or for what is
missing in its message. The two transfers of the United States part over the
kind of the account: one asks for it and the other forbids it. -/
theorem ofRules_of_verifyFields (h : b.verifyFields = .error e) :
    e.OfRules b.toMessage.Lacks := by
  cases b with
  | achTransfer d =>
      rcases bind_eq_error.1 h with h | ⟨_, -, h⟩
      · exact UsTransfer.ofRules_of_verifyShared rfl rfl h
      · cases hkind : d.bank.accountType with
        | some kind =>
            rw [hkind] at h
            cases h
        | none =>
            rw [hkind] at h
            cases h
            exact .missing (.accountType rfl (Option.map_eq_none_iff.2 hkind))
  | domesticWireTransfer d =>
      rcases bind_eq_error.1 h with h | ⟨_, -, h⟩
      · exact UsTransfer.ofRules_of_verifyShared rfl rfl h
      · cases hkind : d.bank.accountType with
        | some kind =>
            rw [hkind] at h
            cases h
            exact .value _
        | none =>
            rw [hkind] at h
            cases h
  | nationalBank d => exact .of_raise h
  | cashDeposit d => exact .of_raise h
  | sameBank d => exact .of_raise h

/-- What passes the shared rules of the transfers of the United States lacks
nothing, but perhaps the kind of its account. -/
theorem not_lacks_of_verifyShared {d : UsTransfer} {shared : String}
    (hd : b.details = d.bank) (h : d.verifyShared shared = .ok ())
    (hkind : ∀ a, b.arm = .achTransfer a → d.bank.accountType ≠ none) :
    ¬b.toMessage.Lacks variant field := by
  unfold UsTransfer.verifyShared at h
  simp only [bind_eq_ok, UsTransfer.need_eq_ok] at h
  obtain ⟨_, -, _, -, _, hholder, _, -, _, hbank, _, hrouting, -⟩ := h
  apply not_lacks_of_present <;> rw [hd]
  · rw [hholder]
    exact nofun
  · rw [hbank]
    exact nofun
  · rw [hrouting]
    exact nofun
  · exact hkind

/-- What passes the rules lacks nothing. -/
theorem not_lacks_of_verifyFields (h : b.verifyFields = .ok ()) :
    ¬b.toMessage.Lacks variant field := by
  cases b with
  | achTransfer d =>
      refine not_lacks_of_verifyShared rfl (bind_unit_eq_ok.1 h).1 ?_
      intro _ _
      exact d.accountType_of_verifyAch h
  | domesticWireTransfer d =>
      refine not_lacks_of_verifyShared rfl (bind_unit_eq_ok.1 h).1 ?_
      intro _ hach
      cases hach
  | nationalBank _ | cashDeposit _ | sameBank _ =>
      intro lacks
      cases lacks.us

end BankInstrument

namespace Instrument

variable {i : Instrument} {e : AccountError} {variant field : String}

/-- An instrument is refused by its own rules for a value or for what is missing
in its message. Of all but the bank transfers the rules are checks of values. -/
theorem ofRules_of_verifyFields (h : i.verifyFields = .error e) :
    e.OfRules i.arm.Lacks := by
  cases i with
  | countryBased c =>
      cases c with
      | bank b =>
          exact (BankInstrument.ofRules_of_verifyFields h).mono fun _ _ => .bank
      | _ => exact .of_raise h
  | _ => exact .of_raise h

/-- Only bank accounts lack anything. -/
theorem exists_bank_of_lacks (lacks : i.arm.Lacks variant field) :
    ∃ b, i = .countryBased (.bank b) ∧ b.toMessage.Lacks variant field := by
  cases i with
  | countryBased c =>
      cases c with
      | bank b =>
          cases lacks with
          | bank lacks => exact ⟨b, rfl, lacks⟩
      | _ => cases lacks
  | _ => cases lacks

/-- An instrument that passes its own rules lacks nothing. -/
theorem not_lacks_of_verifyFields (h : i.verifyFields = .ok ()) :
    ¬i.arm.Lacks variant field := by
  intro lacks
  obtain ⟨b, rfl, hbank⟩ := exists_bank_of_lacks lacks
  exact b.not_lacks_of_verifyFields h hbank

/-- And of these only the transfers of the United States. -/
theorem not_lacks_of_ne (hach : ∀ d, i ≠ .countryBased (.bank (.achTransfer d)))
    (hwire : ∀ d, i ≠ .countryBased (.bank (.domesticWireTransfer d))) :
    ¬i.arm.Lacks variant field := by
  intro lacks
  obtain ⟨b, rfl, hbank⟩ := exists_bank_of_lacks lacks
  cases b with
  | achTransfer d => exact hach d rfl
  | domesticWireTransfer d => exact hwire d rfl
  | nationalBank _ | cashDeposit _ | sameBank _ => cases hbank.us

end Instrument

/-- What is not made is refused by a rule. -/
theorem Payload.ofRules_of_create {id : String} {salt : List UInt8}
    {i : Instrument} {e : AccountError} (h : create id salt i = .error e) :
    e.OfRules i.arm.Lacks := by
  unfold create verify at h
  rcases bind_eq_error.1 h with h | ⟨_, -, h⟩
  · exact .of_raise h
  rcases bind_eq_error.1 h with h | ⟨_, -, h⟩
  · rcases bind_eq_error.1 h with h | ⟨_, -, h⟩
    · exact .of_raise h
    rcases bind_eq_error.1 h with h | ⟨_, -, h⟩
    · exact .of_raise h
    · exact Instrument.ofRules_of_verifyFields h
  · cases h

-- ============================================================== readers

/-- An unknown name for the kind of an account is a fault of the bytes. -/
theorem BankAccountType.ofBytes_of_ofMessage {name : Option String}
    {e : AccountError} {Lacks : String → String → Prop}
    (h : ofMessage name = .error e) : e.OfBytes Lacks := by
  unfold ofMessage at h
  split at h
  · cases h
  · split at h
    · cases h
    · cases h
      exact .decode _

/-- An open choice is a fault of the bytes. -/
theorem Message.ofBytes_of_chosen {α : Type} {level : String}
    {choice : Option α} {e : AccountError} {Lacks : String → String → Prop}
    (h : chosen level choice = .error e) : e.OfBytes Lacks := by
  obtain ⟨-, rfl⟩ := chosen_eq_error.1 h
  exact .unresolvableVariant level _

section

variable {Lacks : String → String → Prop} {e : AccountError}

/-- A choice or a name is refused before any rule is looked at. -/
theorem BankInstrument.ofBytes_of_ofMessage {country : String}
    {m : Message.Bank} (h : ofMessage country m = .error e) :
    e.OfBytes Lacks := by
  unfold ofMessage at h
  rcases bind_eq_error.1 h with h | ⟨arm, -, h⟩
  · exact Message.ofBytes_of_chosen h
  rcases bind_eq_error.1 h with h | ⟨kind, -, h⟩
  · exact BankAccountType.ofBytes_of_ofMessage h
  · cases arm <;> cases h

theorem CountryInstrument.ofBytes_of_ofMessage {m : Message.CountryBased}
    (h : ofMessage m = .error e) : e.OfBytes Lacks := by
  unfold ofMessage at h
  rcases bind_eq_error.1 h with h | ⟨arm, -, h⟩
  · exact Message.ofBytes_of_chosen h
  · cases arm with
    | bank b => exact BankInstrument.ofBytes_of_ofMessage (map_eq_error.1 h)
    | _ => cases h

theorem Instrument.ofBytes_of_ofMessage {m : Message.Payload}
    (h : ofMessage m = .error e) : e.OfBytes Lacks := by
  unfold ofMessage at h
  rcases bind_eq_error.1 h with h | ⟨arm, -, h⟩
  · exact Message.ofBytes_of_chosen h
  · cases arm with
    | countryBased c =>
        exact CountryInstrument.ofBytes_of_ofMessage (map_eq_error.1 h)
    | _ => cases h

end

/-- What an instrument lacks was lacking in its message. -/
theorem Instrument.lacks_of_ofMessage {m : Message.Payload} {i : Instrument}
    {variant field : String} (h : ofMessage m = .ok i)
    (lacks : i.arm.Lacks variant field) : m.Lacks variant field := by
  obtain ⟨b, rfl, hlacks⟩ := exists_bank_of_lacks lacks
  obtain ⟨arm, harm, h⟩ := bind_eq_ok.1 h
  cases arm with
  | countryBased c =>
      obtain ⟨_, hc, hi⟩ := map_eq_ok.1 h
      cases hi
      obtain ⟨choice, hchoice, hc⟩ := bind_eq_ok.1 hc
      cases choice with
      | bank written =>
          obtain ⟨_, hb, hi⟩ := map_eq_ok.1 hc
          cases hi
          obtain ⟨-, rfl⟩ := BankInstrument.ofMessage_eq_ok.1 hb
          obtain ⟨country, choice⟩ := c
          cases Message.chosen_eq_ok.1 hchoice
          exact ⟨_, Message.chosen_eq_ok.1 harm, .bank hlacks⟩
      | _ => cases hc
  | _ => cases h

/-- A message is refused as bytes are, and what is reported as missing is
missing. -/
theorem Payload.ofBytes_of_ofMessage {m : Message.Payload} {e : AccountError}
    (h : ofMessage m = .error e) : e.OfBytes m.Lacks := by
  unfold ofMessage at h
  rcases bind_eq_error.1 h with h | ⟨i, hi, h⟩
  · exact Instrument.ofBytes_of_ofMessage h
  rcases bind_eq_error.1 h with h | ⟨p, -, h⟩
  · refine .rules ((ofRules_of_create h).mono ?_)
    intro _ _
    exact Instrument.lacks_of_ofMessage hi
  rcases bind_eq_error.1 h with h | ⟨_, -, h⟩
  · exact .rules (.of_raise h)
  · cases h

/-- A message that lacks something is no payload. -/
theorem Payload.ofMessage_ne_ok {m : Message.Payload} {variant field : String}
    (lacks : m.Lacks variant field) (p : Payload Instrument) :
    ofMessage m ≠ .ok p := by
  intro h
  obtain ⟨rfl, verified⟩ := ofMessage_eq_ok.1 h
  obtain ⟨arm, harm, hlacks⟩ := lacks
  cases Option.some.inj harm
  exact Instrument.not_lacks_of_verifyFields (verify_eq_ok.1 verified).2.2 hlacks

/-- So is the message of an account. -/
theorem PaymentAccount.ofBytes_of_ofMessage {m : Message.Account}
    {e : AccountError} (h : ofMessage m = .error e) : e.OfBytes m.Lacks := by
  cases ofMessage_eq_error.1 h with
  | openChoice first => exact .unresolvableVariant _ _
  | absentPayload chosen absent => exact .rules (.missing (.payload absent))
  | payload chosen present refused =>
      refine (Payload.ofBytes_of_ofMessage refused).mono ?_
      intro _ _
      exact .field present
  | rails chosen present accepted declares differ =>
      exact .unresolvableVariant _ _
  | signing chosen present accepted agrees key refused =>
      cases refused with
      | algorithm unknown => exact .decode _
      | origin known unknown => exact .decode _

-- =============================================================== bytes

section

variable {bytes : List UInt8} {e : AccountError}

/-- Bytes that are refused as a payload are no message, or their message is
refused as bytes are. -/
theorem ofBytes_of_decodePayload (h : decodePayload bytes = .error e) :
    e.OfBytes fun variant field =>
      ∃ m, Message.Payload.layout.decode? bytes = some m
        ∧ m.Lacks variant field := by
  unfold decodePayload at h
  split at h
  next m hm =>
    refine (Payload.ofBytes_of_ofMessage h).mono ?_
    intro _ _ lacks
    exact ⟨m, hm, lacks⟩
  next =>
    cases h
    exact .decode _

/-- Bytes that are refused as an account are no message, or their message is
refused as bytes are. -/
theorem ofBytes_of_decodeAccount (h : decodeAccount bytes = .error e) :
    e.OfBytes fun variant field =>
      ∃ m, Message.Account.layout.decode? bytes = some m
        ∧ m.Lacks variant field := by
  unfold decodeAccount at h
  split at h
  next m hm =>
    refine (PaymentAccount.ofBytes_of_ofMessage h).mono ?_
    intro _ _ lacks
    exact ⟨m, hm, lacks⟩
  next =>
    cases h
    exact .decode _

end

-- ============================================================== makers

/-- What is refused in making a payload is a value, so it can be mended. -/
def Payload.RefusesValues (made : Except AccountError (Payload Instrument)) :
    Prop :=
  ∀ e, made = .error e →
    e.recoverable = true ∧ ∃ fault, e = .fieldValidation fault

/-- Whoever makes a payload of an instrument that lacks nothing is refused for a
value. -/
theorem Payload.refusesValues_create {id : String} {salt : List UInt8}
    {i : Instrument} (whole : ∀ variant field, ¬i.arm.Lacks variant field) :
    RefusesValues (create id salt i) := by
  intro e h
  obtain ⟨fault, rfl⟩ := (ofRules_of_create h).exists_fault whole
  exact ⟨rfl, fault, rfl⟩

/-- A transfer that is made from its parts lacks nothing. -/
theorem UsTransfer.not_lacks_ofHolder {b : BankInstrument}
    {holderName : String} {holderAddress : Option String}
    {bankName routingNr accountNr : String}
    {accountType : Option BankAccountType} {variant field : String}
    (hd : b.details = (ofHolder holderName holderAddress bankName routingNr
      accountNr accountType).bank)
    (hkind : ∀ a, b.arm = .achTransfer a → accountType ≠ none) :
    ¬b.toMessage.Lacks variant field := by
  apply b.not_lacks_of_present <;> rw [hd]
  · exact nofun
  · exact nofun
  · exact nofun
  · exact hkind

/-- Whoever makes a payload, of its fields or of the parts of a transfer of the
United States, is refused for a value. Bytes are refused for a value, for an
open or disputed choice, for being no message, or for a missing field; that
field is missing, and where it is missing there is no payload. -/
theorem refusal_kinds :
    (∀ id salt instrument,
        (∀ d, instrument ≠ .countryBased (.bank (.achTransfer d))) →
        (∀ d, instrument ≠ .countryBased (.bank (.domesticWireTransfer d))) →
        Payload.RefusesValues (Payload.create id salt instrument))
      ∧ (∀ id salt holderName holderAddress bankName routingNr accountNr
          accountType,
        Payload.RefusesValues (Payload.createAchTransfer id salt holderName
          holderAddress bankName routingNr accountNr accountType))
      ∧ (∀ id salt holderName holderAddress bankName routingNr accountNr,
        Payload.RefusesValues (Payload.createWireTransfer id salt holderName
          holderAddress bankName routingNr accountNr))
      ∧ (∀ bytes e, decodePayload bytes = .error e →
        e.OfBytes fun variant field =>
          ∃ m, Message.Payload.layout.decode? bytes = some m
            ∧ m.Lacks variant field)
      ∧ (∀ bytes e, decodeAccount bytes = .error e →
        e.OfBytes fun variant field =>
          ∃ m, Message.Account.layout.decode? bytes = some m
            ∧ m.Lacks variant field)
      ∧ (∀ bytes m variant field,
        Message.Payload.layout.decode? bytes = some m →
        m.Lacks variant field → ∀ p, decodePayload bytes ≠ .ok p) := by
  refine ⟨?_, ?_, ?_, fun _ _ => ofBytes_of_decodePayload,
    fun _ _ => ofBytes_of_decodeAccount, ?_⟩
  · intro id salt instrument hach hwire
    refine Payload.refusesValues_create ?_
    intro _ _
    exact Instrument.not_lacks_of_ne hach hwire
  · intros
    refine Payload.refusesValues_create ?_
    rintro _ _ ⟨hlacks⟩
    refine UsTransfer.not_lacks_ofHolder rfl ?_ hlacks
    exact fun _ _ => nofun
  · intros
    refine Payload.refusesValues_create ?_
    rintro _ _ ⟨hlacks⟩
    refine UsTransfer.not_lacks_ofHolder rfl ?_ hlacks
    exact fun _ hach => nomatch hach
  · intro bytes m variant field hm lacks p
    unfold decodePayload
    rw [hm]
    exact Payload.ofMessage_ne_ok lacks p

/-- `Payload.sample` without the holder's name, as no maker makes it. -/
def Payload.nameless : Payload Instrument where
  id := "ach-1"
  salt := [7, 0, 255]
  instrument := .countryBased <| .bank <| .achTransfer
    { bank :=
        { country := "US"
          currency := "USD"
          holderName := none
          holderId := none
          bankName := some "First Bank"
          bankId := some "011000015"
          branchId := none
          accountNr := "12345678"
          accountType := some .checking
          nationalAccountId := none }
      holderAddress := none }

/-- A missing field is reported of bytes. Makers hear of values, here of a
routing number and of a mobile number that are empty. -/
theorem refusal_kinds_nameless :
    decodePayload (encodePayload .nameless .wire)
        = .error (.missingRequiredField "AchTransfer" "holder_name")
      ∧ (∃ m, Message.Payload.layout.decode? (encodePayload .nameless .wire)
          = some m ∧ m.Lacks "AchTransfer" "holder_name"
        ∧ ∀ p, decodePayload (encodePayload .nameless .wire) ≠ .ok p)
      ∧ Payload.createWireTransfer "wire-1" [1] "Ada Moss" none "First Bank" ""
          "12345678" = .error (.invalid "routing_nr" .empty)
      ∧ (AccountError.invalid "routing_nr" .empty).recoverable = true
      ∧ Payload.create "bizum-1" [1] (.countryBased (.bizum ⟨""⟩))
        = .error (.invalid "mobile_nr" .empty)
      ∧ (AccountError.invalid "mobile_nr" .empty).recoverable = true := by
  obtain ⟨hcreate, -, hwire, hdecode, -, hlacks⟩ := refusal_kinds
  have hrefused : decodePayload (encodePayload .nameless .wire)
      = .error (.missingRequiredField "AchTransfer" "holder_name") := by
    decide +kernel
  have hrouting : Payload.createWireTransfer "wire-1" [1] "Ada Moss" none
      "First Bank" "" "12345678" = .error (.invalid "routing_nr" .empty) := rfl
  have hmobile : Payload.create "bizum-1" [1] (.countryBased (.bizum ⟨""⟩))
      = .error (.invalid "mobile_nr" .empty) := rfl
  refine ⟨hrefused, ?_, hrouting, (hwire _ _ _ _ _ _ _ _ hrouting).1, hmobile,
    (hcreate _ _ _ ?_ ?_ _ hmobile).1⟩
  · obtain ⟨m, hm, lacks⟩ := (hdecode _ _ hrefused).lacks
    exact ⟨m, hm, lacks, hlacks _ m _ _ hm lacks⟩
  · intro _ h
    cases h
  · intro _ h
    cases h

end FiatAccounts

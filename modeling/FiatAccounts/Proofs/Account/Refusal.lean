/-
Why a message is refused when several things are wrong with it.

A reader looks at the choices before anything else, so what an open choice
stands next to makes no difference: the outermost one is reported
(`Payload.ofMessage_of_open`, `Message.Account.rail_eq_error`). `Refused` says
what comes after that in an account's message. Each of its cases asks that all
earlier steps went well, so no two cases hold at once, and the reader refuses a
message with exactly the one that does (`PaymentAccount.ofMessage_eq_error`).
-/
import FiatAccounts.Proofs.Account.Consistent

namespace FiatAccounts

-- ======================================================== open choices

namespace Message

/-- The level of the choice, if it is open. -/
def Bank.openLevel? (m : Bank) : Option String :=
  match m.arm with
  | none => some "bank_payload"
  | some _ => none

/-- The level of the outermost open choice, if one is open. -/
def CountryBased.openLevel? (m : CountryBased) : Option String :=
  match m.arm with
  | none => some "country_based_payload"
  | some (.bank b) => b.openLevel?
  | some _ => none

/-- The level of the outermost open choice, if one is open. -/
def Payload.openLevel? (m : Payload) : Option String :=
  match m.arm with
  | none => some "payload"
  | some (.countryBased c) => c.openLevel?
  | some _ => none

def CountryAccountArm.openLevel? : CountryAccountArm → Option String
  | .bank none => some "bank_account"
  | _ => none

def AccountArm.openLevel? : AccountArm → Option String
  | .countryBased none => some "country_based_account"
  | .countryBased (some arm) => arm.openLevel?
  | _ => none

/-- The level of the outermost open choice, if one is open. -/
def Account.openLevel? (m : Account) : Option String :=
  match m.arm with
  | none => some "account"
  | some arm => arm.openLevel?

/-- Nothing but an open choice is refused here, and the refusal names the
level. -/
theorem chosen_eq_error {α : Type} {level : String} {choice : Option α}
    {e : AccountError} :
    chosen level choice = .error e
      ↔ choice = none ∧ e = .unresolvableVariant level "no variant set" := by
  cases choice <;> simp [chosen, eq_comm]

end Message

-- ============================================================ payloads

/-- The open choice of a bank transfer is reported, whatever the country. -/
theorem BankInstrument.ofMessage_of_open {m : Message.Bank} {level : String}
    (h : m.openLevel? = some level) (country : String) :
    ofMessage country m
      = .error (.unresolvableVariant level "no variant set") := by
  unfold Message.Bank.openLevel? at h
  split at h
  · rename_i hopen
    cases h
    unfold ofMessage
    rw [hopen]
    rfl
  · cases h

/-- An open choice is reported as the level that it is on has it. The bank's own
choice is reached before any field of the bank is read. -/
theorem CountryInstrument.ofMessage_of_open {m : Message.CountryBased}
    {level : String} (h : m.openLevel? = some level) :
    ofMessage m = .error (.unresolvableVariant level "no variant set") := by
  unfold Message.CountryBased.openLevel? at h
  unfold ofMessage
  split at h
  · rename_i hopen
    cases h
    rw [hopen]
    rfl
  · rename_i b hbank
    rw [hbank]
    show (BankInstrument.ofMessage m.country b).map bank = _
    rw [BankInstrument.ofMessage_of_open h]
    rfl
  · cases h

/-- An open choice on any of the three levels is reported. -/
theorem Instrument.ofMessage_of_open {m : Message.Payload} {level : String}
    (h : m.openLevel? = some level) :
    ofMessage m = .error (.unresolvableVariant level "no variant set") := by
  unfold Message.Payload.openLevel? at h
  unfold ofMessage
  split at h
  · rename_i hopen
    cases h
    rw [hopen]
    rfl
  · rename_i c hcountry
    rw [hcountry]
    show (CountryInstrument.ofMessage c).map countryBased = _
    rw [CountryInstrument.ofMessage_of_open h]
    rfl
  · cases h

/-- An open choice is reported, whatever else the message says. -/
theorem Payload.ofMessage_of_open {m : Message.Payload} {level : String}
    (h : m.openLevel? = some level) :
    ofMessage m = .error (.unresolvableVariant level "no variant set") := by
  unfold ofMessage
  rw [Instrument.ofMessage_of_open h]
  rfl

-- ================================================ the choice of an account

namespace Message

/-- Among the country accounts only the choice of a bank account can be open. -/
theorem CountryAccountArm.rail_eq_error {arm : CountryAccountArm}
    {e : AccountError} :
    arm.rail = .error e ↔ ∃ level, arm.openLevel? = some level
      ∧ e = .unresolvableVariant level "no variant set" := by
  cases arm
  case bank arm =>
    unfold rail openLevel?
    rw [map_eq_error, chosen_eq_error]
    cases arm <;> simp
  all_goals simp [rail, openLevel?]

/-- A choice fails to name a rail exactly when a level of it is open, and the
refusal names the level. -/
theorem AccountArm.rail_eq_error {arm : AccountArm} {e : AccountError} :
    arm.rail = .error e ↔ ∃ level, arm.openLevel? = some level
      ∧ e = .unresolvableVariant level "no variant set" := by
  cases arm
  case countryBased arm =>
    unfold rail openLevel?
    rw [bind_eq_error, chosen_eq_error]
    cases arm with
    | none => simp [chosen]
    | some arm => simp [chosen, CountryAccountArm.rail_eq_error]
  all_goals simp [rail, openLevel?]

namespace Account

variable {m : Account}

/-- A message declares no rail exactly when a choice is open, and then the
outermost is reported. -/
theorem rail_eq_error {e : AccountError} :
    m.rail = .error e ↔ ∃ level, m.openLevel? = some level
      ∧ e = .unresolvableVariant level "no variant set" := by
  unfold rail openLevel?
  rw [bind_eq_error, chosen_eq_error]
  cases m.arm with
  | none => simp [chosen]
  | some arm => simp [chosen, AccountArm.rail_eq_error]

end Account

/-- A choice among the country accounts that names a rail spells a path. -/
theorem CountryAccountArm.exists_path {arm : CountryAccountArm} {rail : Rail}
    (h : arm.rail = .ok rail) : ∃ path, arm.path? = some path := by
  cases arm
  case bank arm =>
    obtain ⟨arm, harm, -⟩ := map_eq_ok.1 h
    rw [chosen_eq_ok.1 harm]
    exact ⟨_, rfl⟩
  all_goals exact ⟨_, rfl⟩

/-- A choice that names a rail is open nowhere, so it spells a path. -/
theorem AccountArm.exists_path {arm : AccountArm} {rail : Rail}
    (h : arm.rail = .ok rail) : ∃ path, arm.path? = some path := by
  cases arm
  case countryBased arm =>
    obtain ⟨arm, harm, hrail⟩ := bind_eq_ok.1 h
    obtain ⟨path, hpath⟩ := CountryAccountArm.exists_path hrail
    rw [chosen_eq_ok.1 harm]
    refine ⟨"CountryBased" :: path, ?_⟩
    simp only [path?, Option.bind_eq_bind, Option.bind_some, hpath,
      Option.pure_def]
  all_goals exact ⟨_, rfl⟩

/-- A message declares the one rail that stands for the path that its choices
spell. -/
theorem Account.rail_eq_ok_iff {m : Account} {rail : Rail} :
    m.rail = .ok rail
      ↔ ∃ path, m.path? = some path ∧ rail.path? = some path := by
  rw [rail_eq_ok]
  constructor
  · rintro ⟨arm, harm, hrail⟩
    obtain ⟨path, hpath⟩ := AccountArm.exists_path hrail
    refine ⟨path, ?_, ?_⟩
    · unfold path?
      rw [harm, Option.bind_eq_bind, Option.bind_some, hpath]
    · rw [AccountArm.path?_rail hrail, hpath]
  · rintro ⟨path, hpath, hrail⟩
    obtain ⟨arm, harm, hspelled⟩ := Option.bind_eq_some_iff.1 hpath
    obtain ⟨named, hnamed⟩ := AccountArm.rail_of_path? hspelled
    have hsame : named.path? = some path := by
      rw [AccountArm.path?_rail hnamed, hspelled]
    rw [Rail.eq_of_path hrail hsame]
    exact ⟨arm, harm, hnamed⟩

/-- A message whose choices spell a path declares a rail. -/
theorem Account.exists_declared {m : Account} {path : List String}
    (h : m.path? = some path) : ∃ rail : Rail, rail.path? = some path := by
  obtain ⟨arm, -, hspelled⟩ := Option.bind_eq_some_iff.1 h
  obtain ⟨rail, hrail⟩ := AccountArm.rail_of_path? hspelled
  exact ⟨rail, by rw [AccountArm.path?_rail hrail, hspelled]⟩

-- ================================================================ keys

/-- Of two unknown names the algorithm's is reported. -/
inductive Signing.Refused (s : Signing) : AccountError → Prop where
  | algorithm (unknown : ∀ known : KeyAlgorithm, known.name ≠ s.algorithm) :
    Refused s (.decode (.unknownKeyAlgorithm s.algorithm))
  | origin {algorithm : KeyAlgorithm} (known : algorithm.name = s.algorithm)
      (unknown : ∀ known : AccountOrigin, known.name ≠ s.origin) :
    Refused s (.decode (.unknownAccountOrigin s.origin))

end Message

/-- A text is no algorithm if it is the name of none. -/
theorem KeyAlgorithm.ofName?_eq_none {text : String} :
    ofName? text = none ↔ ∀ known : KeyAlgorithm, known.name ≠ text := by
  rw [Option.eq_none_iff_forall_ne_some]
  exact forall_congr' fun known => not_congr ofName?_eq_some

theorem AccountOrigin.ofName?_eq_none {text : String} :
    ofName? text = none ↔ ∀ known : AccountOrigin, known.name ≠ text := by
  rw [Option.eq_none_iff_forall_ne_some]
  exact forall_congr' fun known => not_congr ofName?_eq_some

/-- A key is refused for its algorithm, and for its origin only if the algorithm
is known. -/
theorem SigningIdentity.ofMessage_eq_error {s : Message.Signing}
    {e : AccountError} : ofMessage s = .error e ↔ s.Refused e := by
  unfold ofMessage
  constructor
  · intro h
    split at h
    · rename_i hnone
      cases h
      exact .algorithm (KeyAlgorithm.ofName?_eq_none.1 hnone)
    · rename_i algorithm halgorithm
      split at h
      · rename_i hnone
        cases h
        exact .origin (KeyAlgorithm.ofName?_eq_some.1 halgorithm)
          (AccountOrigin.ofName?_eq_none.1 hnone)
      · cases h
  · intro h
    cases h with
    | algorithm unknown =>
        simp only [KeyAlgorithm.ofName?_eq_none.2 unknown]
    | origin known unknown =>
        simp only [KeyAlgorithm.ofName?_eq_some.2 known,
          AccountOrigin.ofName?_eq_none.2 unknown]

-- ============================================================ accounts

namespace Message.Account

/-- What an account's message is refused for. -/
inductive Refused (m : Account) : AccountError → Prop where
  /-- A choice is open. -/
  | openChoice {level : String} (first : m.openLevel? = some level) :
    Refused m (.unresolvableVariant level "no variant set")
  /-- No choice is open, but there is no payload. -/
  | absentPayload {path : List String} (chosen : m.path? = some path)
      (absent : m.payload = none) :
    Refused m (.missingRequiredField "Account" "account_payload")
  /-- The payload is refused, and that is passed on. -/
  | payload {path : List String} {written : Payload} {e : AccountError}
      (chosen : m.path? = some path) (present : m.payload = some written)
      (refused : FiatAccounts.Payload.ofMessage written = .error e) :
    Refused m e
  /-- The payload is on another rail than the one that the choices declare. -/
  | rails {path : List String} {written : Payload}
      {p : FiatAccounts.Payload Instrument} {declared : Rail}
      (chosen : m.path? = some path) (present : m.payload = some written)
      (accepted : FiatAccounts.Payload.ofMessage written = .ok p)
      (declares : declared.path? = some path) (differ : p.rail ≠ declared) :
    Refused m (.unresolvableVariant "account"
      (declared.name ++ " account holds a " ++ p.rail.name ++ " payload"))
  /-- All is well but for the names of the key. -/
  | signing {path : List String} {written : Payload}
      {p : FiatAccounts.Payload Instrument} {s : Signing} {e : AccountError}
      (chosen : m.path? = some path) (present : m.payload = some written)
      (accepted : FiatAccounts.Payload.ofMessage written = .ok p)
      (agrees : p.rail.path? = some path) (key : m.signing = some s)
      (refused : s.Refused e) :
    Refused m e

variable {m : Account} {e : AccountError}

/-- A payload is refused for being absent or for what is wrong with it. -/
theorem payload?_eq_error :
    m.payload? = .error e
      ↔ m.payload = none
          ∧ e = .missingRequiredField "Account" "account_payload"
        ∨ ∃ written, m.payload = some written
          ∧ FiatAccounts.Payload.ofMessage written = .error e := by
  unfold payload?
  cases m.payload <;> simp [eq_comm]

/-- A payload that is read was written in the message. -/
theorem payload?_eq_ok_iff {p : FiatAccounts.Payload Instrument} :
    m.payload? = .ok p ↔ ∃ written, m.payload = some written
      ∧ FiatAccounts.Payload.ofMessage written = .ok p := by
  unfold payload?
  cases m.payload <;> simp

/-- A key is refused only if there is one. -/
theorem signing?_eq_error :
    m.signing? = .error e ↔ ∃ s, m.signing = some s ∧ s.Refused e := by
  unfold signing?
  cases m.signing with
  | none => simp
  | some s => simp [map_eq_error, SigningIdentity.ofMessage_eq_error]

end Message.Account

/-- A message is refused for the first thing that is wrong with it. -/
theorem PaymentAccount.ofMessage_eq_error {m : Message.Account}
    {e : AccountError} : ofMessage m = .error e ↔ m.Refused e := by
  unfold ofMessage
  simp only [bind_eq_error, Message.Account.rail_eq_error,
    Message.Account.rail_eq_ok_iff, Message.Account.payload?_eq_error,
    Message.Account.payload?_eq_ok_iff]
  constructor
  · rintro (⟨level, hopen, rfl⟩ | ⟨declared, ⟨path, hchosen, hdeclares⟩, h⟩)
    · exact .openChoice hopen
    rcases h with (⟨habsent, rfl⟩ | ⟨written, hpresent, hrefused⟩)
      | ⟨p, ⟨written, hpresent, haccepted⟩, h⟩
    · exact .absentPayload hchosen habsent
    · exact .payload hchosen hpresent hrefused
    split at h
    · rename_i hdiffer
      cases h
      exact .rails hchosen hpresent haccepted hdeclares hdiffer
    · rename_i hsame
      -- the payload is on the declared rail, so the key is all that is left
      have hagrees : p.rail.path? = some path := by
        rw [Decidable.not_not.1 hsame, hdeclares]
      rcases bind_eq_error.1 h with h | ⟨_, -, h⟩
      · obtain ⟨s, hkey, hrefused⟩ := Message.Account.signing?_eq_error.1 h
        exact .signing hchosen hpresent haccepted hagrees hkey hrefused
      · cases h
  · intro h
    cases h with
    | openChoice first => exact .inl ⟨_, first, rfl⟩
    | absentPayload chosen absent =>
        obtain ⟨declared, hdeclares⟩ := m.exists_declared chosen
        exact .inr ⟨declared, ⟨_, chosen, hdeclares⟩, .inl (.inl ⟨absent, rfl⟩)⟩
    | payload chosen present refused =>
        obtain ⟨declared, hdeclares⟩ := m.exists_declared chosen
        exact .inr ⟨declared, ⟨_, chosen, hdeclares⟩,
          .inl (.inr ⟨_, present, refused⟩)⟩
    | rails chosen present accepted declares differ =>
        refine .inr ⟨_, ⟨_, chosen, declares⟩,
          .inr ⟨_, ⟨_, present, accepted⟩, ?_⟩⟩
        rw [if_pos differ]
    | signing chosen present accepted agrees key refused =>
        refine .inr ⟨_, ⟨_, chosen, agrees⟩,
          .inr ⟨_, ⟨_, present, accepted⟩, ?_⟩⟩
        rw [if_neg (fun h => h rfl)]
        exact bind_eq_error.2
          (.inl (Message.Account.signing?_eq_error.2 ⟨_, key, refused⟩))

/-- A reader reports an open choice of a payload whatever stands around it, and
refuses an account for the first thing that is wrong with it. What it does not
refuse it has read to the last field. -/
theorem refused_for_first_fault :
    (∀ (m : Message.Payload) (level : String), m.openLevel? = some level →
        Payload.ofMessage m
          = .error (.unresolvableVariant level "no variant set"))
      ∧ (∀ m e, PaymentAccount.ofMessage m = .error e ↔ m.Refused e)
      ∧ (∀ m p, Payload.ofMessage m = .ok p → p.toMessage = m)
      ∧ (∀ m a, PaymentAccount.ofMessage m = .ok a → a.toMessage = m) :=
  ⟨fun _ _ => Payload.ofMessage_of_open,
    fun _ _ => PaymentAccount.ofMessage_eq_error,
    fun _ _ h => (Payload.ofMessage_eq_ok.1 h).1,
    fun _ _ h => (PaymentAccount.ofMessage_eq_ok.1 h).1⟩

/-- A payload without an id, in no known country, in a bank account of an
unknown type, on a rail that is not named. -/
def Message.Payload.faulty : Message.Payload where
  id := ""
  salt := []
  arm := some <| .countryBased
    { country := "??"
      arm := some <| .bank
        { holderName := none
          holderId := none
          bankName := none
          bankId := none
          branchId := none
          accountNr := ""
          accountType := some "LOAN"
          nationalAccountId := none
          currency := ""
          arm := none } }

/-- An account with everything wrong. -/
def Message.Account.faulty : Message.Account where
  id := ""
  creationDate := 0
  name := ""
  payload := none
  signing := some
    { publicKey := []
      privateKey := []
      algorithm := "RSA"
      origin := "ELSEWHERE" }
  arm := some (.countryBased none)

/-- One thing after the other is put right, and the next one is reported. -/
theorem refused_for_first_fault_faulty :
    PaymentAccount.ofMessage .faulty
        = .error (.unresolvableVariant "country_based_account" "no variant set")
      ∧ PaymentAccount.ofMessage
          { Message.Account.faulty with
            arm := some .sbp }
        = .error (.missingRequiredField "Account" "account_payload")
      ∧ PaymentAccount.ofMessage
          { Message.Account.faulty with
            arm := some .sbp
            payload := some .faulty }
        = .error (.unresolvableVariant "bank_payload" "no variant set")
      ∧ PaymentAccount.ofMessage
          { Message.Account.faulty with
            arm := some .sbp
            payload := Message.Account.sample.payload }
        = .error (.unresolvableVariant "account"
          "SBP account holds a ACH_TRANSFER payload")
      ∧ PaymentAccount.ofMessage
          { Message.Account.sample with
            signing := Message.Account.faulty.signing }
        = .error (.decode (.unknownKeyAlgorithm "RSA")) := by
  obtain ⟨hpayload, haccount, -⟩ := refused_for_first_fault
  refine ⟨(haccount _ _).2 (.openChoice rfl),
    (haccount _ _).2 (.absentPayload rfl rfl),
    (haccount _ _).2 (.payload rfl rfl (hpayload _ _ rfl)),
    (haccount _ _).2 ?_,
    (haccount _ _).2 (.signing rfl rfl rfl rfl rfl (.algorithm ?_))⟩
  · exact @Message.Account.Refused.rails _ _ _ .sample .sbp rfl rfl rfl rfl
      (by decide)
  · intro known
    cases known <;> decide

end FiatAccounts

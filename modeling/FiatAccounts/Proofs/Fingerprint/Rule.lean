/-
Rules of fingerprints and the instruments that they are for.

Every instrument has a rule, and the rule is of the instrument's own family
(`Instrument.exists_rule`). The rule asks for values by name and the instrument
answers by name, each with a list of its own. For an instrument that is no bank
account nothing gets lost between the two lists (`Answers`): it answers to every
name of its rule, in the rule's order, and its answer is the field of that name.
One answer may be missing, that of a MoneyGram account without a state.
-/
import FiatAccounts.Payload.Fingerprint
import FiatAccounts.Proofs.Instrument.Fields

namespace FiatAccounts

open Fingerprint

-- ================================================================ texts

theorem Fingerprint.Part.text_field (profile : Profile)
    (name : String) :
    (Part.field name).text profile
      = (profile.identity.lookup name).getD "" := rfl

/-- A fingerprint opens with the method id. What follows is the rule's. -/
theorem Payload.fingerprint_eq {p : Payload Instrument} {rule : Rule}
    (h : rule? p.rail = some rule) :
    p.fingerprint
      = Text.Utf8.encode
        (p.rail.methodId ++ rule.text p.instrument.profile) := by
  have hrule : rule? p.instrument.profile.rail = some rule := h
  unfold fingerprint text
  rw [hrule]
  rfl

-- ================================================= rules and instruments

/-- Every instrument of a country has a rule of its family. -/
theorem CountryInstrument.exists_rule (c : CountryInstrument) :
    ∃ rule, rule? c.profile.rail = some rule ∧ rule.family = c.family := by
  cases c
  case bank b => cases b <;> exact ⟨_, rfl, rfl⟩
  all_goals exact ⟨_, rfl, rfl⟩

/-- Every instrument has a rule. -/
theorem Instrument.exists_rule (i : Instrument) :
    ∃ rule, rule? i.rail = some rule ∧ rule.family = i.family := by
  cases i
  case countryBased c => exact c.exists_rule
  all_goals exact ⟨_, rfl, rfl⟩

/-- Instruments of one rail are of one family. -/
theorem Instrument.family_eq_of_rail_eq {i j : Instrument}
    (h : i.rail = j.rail) : i.family = j.family := by
  obtain ⟨rule, hi, hfamily⟩ := i.exists_rule
  obtain ⟨rule', hj, hfamily'⟩ := j.exists_rule
  rw [h, hj] at hi
  rw [← hfamily, ← hfamily', Option.some.inj hi]

-- ==================================================== questions, answers

namespace Fingerprint

/-- The name that a part asks for. -/
def Part.name? : Part → Option String
  | .field name => some name
  | .literal _ => none

/-- The names that a rule asks for, in its order. -/
def Rule.names (rule : Rule) : List String :=
  rule.parts.filterMap Part.name?

/-- The names of a rule are those of its fields. -/
theorem Rule.mem_names {rule : Rule} {name : String} :
    name ∈ rule.names ↔ .field name ∈ rule.parts := by
  unfold names
  rw [List.mem_filterMap]
  constructor
  · rintro ⟨part, hpart, hname⟩
    cases part with
    | field other =>
        cases hname
        exact hpart
    | literal text => cases hname
  · intro h
    exact ⟨_, h, rfl⟩

/-- The instrument is a MoneyGram account whose state is absent. -/
def Stateless (i : Instrument) : Prop :=
  ∃ d, i = .countryBased (.moneyGram d) ∧ d.details.state = none

/-- What an instrument that is no bank account has for its rule. -/
structure Answers (i : Instrument) (rule : Rule) : Prop where
  /-- Only a rule for instruments with a country opens with one. -/
  country : rule.base = .methodAndCountry → i.profile.country ≠ none
  /-- What answers to a name is the field of that name. -/
  fields : rule.names.map i.field?
    = rule.names.map fun name => some (i.profile.identity.lookup name)
  /-- Everything that is asked for is answered, but for an absent state. -/
  asked : rule.names = i.profile.identity.map Prod.fst
    ∨ Stateless i
      ∧ rule.names = "state" :: i.profile.identity.map Prod.fst

/-- An instrument of a country answers to every name of its rule, unless it is a
bank account. Only a MoneyGram account has an answer that may be missing. -/
theorem answers_country {c : CountryInstrument} {rule : Rule}
    (h : rule? c.profile.rail = some rule) (unbanked : c.family ≠ .bank) :
    Answers (.countryBased c) rule := by
  cases c
  case bank b => exact absurd rfl unbanked
  case moneyGram d =>
    cases h
    obtain ⟨country, codes, holderName, email, state⟩ := d
    cases state with
    | none => exact ⟨fun _ => nofun, rfl, .inr ⟨⟨_, rfl, rfl⟩, rfl⟩⟩
    | some state => exact ⟨fun _ => nofun, rfl, .inl rfl⟩
  all_goals
    cases h
    exact ⟨fun _ => nofun, rfl, .inl rfl⟩

/-- An instrument that is no bank account answers to every name of its rule. -/
theorem answers_rule {i : Instrument} {rule : Rule}
    (h : rule? i.rail = some rule) (unbanked : i.family ≠ .bank) :
    Answers i rule := by
  cases i
  case countryBased c => exact answers_country h unbanked
  all_goals
    cases h
    exact ⟨nofun, rfl, .inl rfl⟩

variable {i : Instrument} {rule : Rule}

/-- What an instrument answers to a name of its rule is what its field of that
name holds. -/
theorem Answers.field?_eq (h : Answers i rule) {name : String}
    (hname : name ∈ rule.names) :
    i.field? name = some (i.profile.identity.lookup name) :=
  List.map_inj_left.1 h.fields name hname

/-- An instrument that says something under each of its names says something to
each name of its rule, unless the name is of the state that it does not have. -/
theorem Answers.value (h : Answers i rule) (spoken : i.profile.Spoken)
    {name : String} (hname : name ∈ rule.names) :
    (∃ value, i.profile.identity.lookup name = some value ∧ value ≠ "")
      ∨ Stateless i ∧ name = "state"
        ∧ i.profile.identity.lookup name = none := by
  -- a name of the identity has its first pair under it, and every pair says
  -- something
  have hsaid (hkey : name ∈ i.profile.identity.map Prod.fst) :
      ∃ value, i.profile.identity.lookup name = some value ∧ value ≠ "" := by
    obtain ⟨pair, hpair, rfl⟩ := List.mem_map.1 hkey
    have hfound := List.lookup_isSome_iff.2 ⟨pair, hpair, beq_self_eq_true _⟩
    obtain ⟨value, hvalue⟩ := Option.isSome_iff_exists.1 hfound
    obtain ⟨before, after, hlist, -⟩ := List.lookup_eq_some_iff.1 hvalue
    refine ⟨value, hvalue, spoken (pair.1, value) ?_⟩
    rw [hlist]
    exact List.mem_append_right _ List.mem_cons_self
  obtain hkeys | ⟨hstate, hkeys⟩ := h.asked
  · rw [hkeys] at hname
    exact .inl (hsaid hname)
  · rw [hkeys] at hname
    obtain rfl | hkey := List.mem_cons.1 hname
    · obtain ⟨d, rfl, hd⟩ := hstate
      refine .inr ⟨⟨d, rfl, hd⟩, rfl, ?_⟩
      obtain ⟨country, codes, holderName, email, state⟩ := d
      cases hd
      rfl
    · exact .inl (hsaid hkey)

end Fingerprint

end FiatAccounts

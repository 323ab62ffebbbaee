/-
What stands in the fingerprint of an instrument that is no bank account.

It is the method id, the country where the rule says so, and what the parts of
the rule spell (`Spells`): each fixed text, and for each name the field of that
name, which says something. Only a state that a MoneyGram account does not have
is passed over. Nothing else of the payload goes into it, so payloads that agree
on what the rule asks for have one fingerprint.
-/
import FiatAccounts.Proofs.Fingerprint.Rule
import FiatAccounts.Proofs.Payload.Message
import FiatAccounts.Witness.AgeWitness

namespace FiatAccounts

open Fingerprint

namespace Fingerprint

-- ======================================================= what parts spell

/-- The text that parts spell of an instrument's fields. Every field that a part
names is there and says something, a MoneyGram account's state aside. -/
inductive Spells (i : Instrument) : List Part → String → Prop where
  | nil : Spells i [] ""
  | literal {text rest : String} {parts : List Part}
      (tail : Spells i parts rest) :
      Spells i (.literal text :: parts) (text ++ rest)
  | field {name value rest : String} {parts : List Part}
      (named : i.field? name = some (some value)) (spoken : value ≠ "")
      (tail : Spells i parts rest) :
      Spells i (.field name :: parts) (value ++ rest)
  | noState {rest : String} {parts : List Part} (stateless : Stateless i)
      (tail : Spells i parts rest) :
      Spells i (.field "state" :: parts) rest

/-- Parts whose names an instrument answers to spell the texts of the parts one
after the other. -/
theorem spells_join {i : Instrument} {rule : Rule} (answers : Answers i rule)
    (spoken : i.profile.Spoken) {parts : List Part}
    (h : ∀ name, .field name ∈ parts → name ∈ rule.names) :
    Spells i parts (String.join (parts.map fun part => part.text i.profile)) := by
  induction parts with
  | nil => exact .nil
  | cons part parts ih =>
      have tail := ih fun name hname => h name (List.mem_cons_of_mem _ hname)
      rw [List.map_cons, String.join_cons]
      cases part with
      | literal text => exact .literal tail
      | field name =>
          have hname := h name List.mem_cons_self
          have hfield := answers.field?_eq hname
          rw [Part.text_field]
          -- a missing answer adds no text, and only a state can be missing
          obtain ⟨value, hvalue, hne⟩ | ⟨hstate, rfl, hvalue⟩ :=
            answers.value spoken hname
          · rw [hvalue] at hfield ⊢
            exact .field hfield hne tail
          · rw [hvalue, Option.getD_none, String.empty_append]
            exact .noState hstate tail

/-- A part that is neither an empty text nor the state adds something. -/
theorem Spells.ne_empty {i : Instrument} {parts : List Part} {text : String}
    (h : Spells i parts text)
    (solid : ∃ part ∈ parts, part ≠ .literal "" ∧ part ≠ .field "state") :
    text ≠ "" := by
  induction h with
  | nil =>
      obtain ⟨part, hpart, -⟩ := solid
      cases hpart
  | @literal text rest parts tail ih =>
      rw [ne_eq, String.append_eq_empty_iff]
      rintro ⟨rfl, hrest⟩
      obtain ⟨part, hpart, hne⟩ := solid
      obtain rfl | hpart := List.mem_cons.1 hpart
      · exact hne.1 rfl
      · exact ih ⟨part, hpart, hne⟩ hrest
  | field named spoken tail ih =>
      rw [ne_eq, String.append_eq_empty_iff]
      exact fun h => spoken h.1
  -- the state is passed over, so the part that adds something comes later
  | noState stateless tail ih =>
      obtain ⟨part, hpart, hne⟩ := solid
      obtain rfl | hpart := List.mem_cons.1 hpart
      · exact absurd rfl hne.2
      · exact ih ⟨part, hpart, hne⟩

/-- Every rule has a part that adds something. -/
theorem exists_solid_part {rail : Rail} {rule : Rule}
    (h : rule? rail = some rule) :
    ∃ part ∈ rule.parts, part ≠ .literal "" ∧ part ≠ .field "state" := by
  have hall : ∀ rule ∈ rules,
      ∃ part ∈ rule.parts, part ≠ .literal "" ∧ part ≠ .field "state" := by
    decide
  exact hall rule (List.mem_of_find?_eq_some h)

-- =========================================================== the opening

/-- What a rule opens with: the country, or nothing. -/
def Rule.Opens (rule : Rule) (country : Option String) (opening : String) :
    Prop :=
  rule.base = .methodAndCountry ∧ country = some opening
    ∨ rule.base = .method ∧ opening = ""

/-- The text of a rule is its opening and what its parts spell. The country is
there if the rule opens with it. -/
theorem Answers.text_eq {i : Instrument} {rule : Rule}
    (answers : Answers i rule) (spoken : i.profile.Spoken) :
    ∃ opening text, rule.text i.profile = opening ++ text
      ∧ rule.Opens i.profile.country opening ∧ Spells i rule.parts text := by
  have hspells := spells_join answers spoken fun _ => Rule.mem_names.2
  unfold Rule.text
  cases hbase : rule.base with
  | method => exact ⟨_, _, rfl, .inr ⟨hbase, rfl⟩, hspells⟩
  | methodAndCountry =>
      obtain ⟨country, hcountry⟩ :=
        Option.ne_none_iff_exists'.1 (answers.country hbase)
      rw [hcountry]
      exact ⟨_, _, rfl, .inl ⟨hbase, rfl⟩, hspells⟩

/-- Instruments that agree on what their rule asks for get the same text. -/
theorem Answers.text_congr {i j : Instrument} {rule : Rule}
    (hi : Answers i rule) (hj : Answers j rule)
    (country : rule.base = .methodAndCountry
      → j.profile.country = i.profile.country)
    (fields : ∀ name, .field name ∈ rule.parts → j.field? name = i.field? name) :
    rule.text j.profile = rule.text i.profile := by
  have hparts : rule.parts.map (fun part => part.text j.profile)
      = rule.parts.map fun part => part.text i.profile := by
    refine List.map_congr_left ?_
    intro part hpart
    cases part with
    | literal text => rfl
    | field name =>
        have hname := Rule.mem_names.2 hpart
        have hlookup := fields name hpart
        rw [hi.field?_eq hname, hj.field?_eq hname] at hlookup
        rw [Part.text_field, Part.text_field, Option.some.inj hlookup]
  unfold Rule.text
  rw [hparts]
  split
  case isTrue hbase => rw [country hbase]
  case isFalse => rfl

end Fingerprint

-- ====================================================== the whole layout

/-- A fingerprint is the method id, the opening of the rule and what the rule's
parts spell. -/
theorem Payload.exists_spelled {p : Payload Instrument} {rule : Rule}
    (verified : p.verify = .ok ()) (unbanked : p.instrument.family ≠ .bank)
    (h : rule? p.rail = some rule) :
    ∃ opening text,
      p.fingerprint = Text.Utf8.encode (p.rail.methodId ++ (opening ++ text))
        ∧ rule.Opens p.country opening ∧ Spells p.instrument rule.parts text := by
  have answers := answers_rule h unbanked
  have spoken := Instrument.spoken (verify_eq_ok.1 verified).2.2 unbanked
  obtain ⟨opening, text, htext, hopens, hspells⟩ := answers.text_eq spoken
  refine ⟨opening, text, ?_, hopens, hspells⟩
  rw [fingerprint_eq h, htext]

/-- Payloads of one rail that agree on what its rule asks for have one
fingerprint. -/
theorem Payload.fingerprint_congr {p q : Payload Instrument} {rule : Rule}
    (unbanked : p.instrument.family ≠ .bank) (h : rule? p.rail = some rule)
    (rail : q.rail = p.rail)
    (country : rule.base = .methodAndCountry → q.country = p.country)
    (fields : ∀ name, .field name ∈ rule.parts
      → q.instrument.field? name = p.instrument.field? name) :
    q.fingerprint = p.fingerprint := by
  have hq : rule? q.rail = some rule := by
    rw [rail]
    exact h
  have hfamily : q.instrument.family ≠ .bank := by
    rw [Instrument.family_eq_of_rail_eq rail]
    exact unbanked
  have hp := answers_rule h unbanked
  rw [fingerprint_eq h, fingerprint_eq hq, rail,
    hp.text_congr (answers_rule hq hfamily) country fields]

/-- The fingerprint of a verified payload that is no bank account is the method
id, then the country if the rule has it, then what the rule's parts spell of the
payload's fields. It goes on after the method id, and it is the same for every
payload of the rail that agrees on the country, if the rule has it, and on the
fields that the rule names. -/
theorem fingerprint_spells (p : Payload Instrument)
    (verified : p.verify = .ok ()) (unbanked : p.instrument.family ≠ .bank) :
    p.witnessInput = p.fingerprint
      ∧ ∃ rule opening text, rule? p.rail = some rule
        ∧ p.fingerprint
          = Text.Utf8.encode (p.rail.methodId ++ (opening ++ text))
        ∧ rule.Opens p.country opening
        ∧ Spells p.instrument rule.parts text
        ∧ (Text.Utf8.encode p.rail.methodId).length < p.fingerprint.length
        ∧ ∀ q : Payload Instrument, q.rail = p.rail
          → (rule.base = .methodAndCountry → q.country = p.country)
          → (∀ name, .field name ∈ rule.parts
            → q.instrument.field? name = p.instrument.field? name)
          → q.fingerprint = p.fingerprint := by
  obtain ⟨rule, hrule, -⟩ := p.instrument.exists_rule
  obtain ⟨opening, text, hfingerprint, hopens, hspells⟩ :=
    p.exists_spelled verified unbanked hrule
  refine ⟨rfl, rule, opening, text, hrule, hfingerprint, hopens, hspells,
    ?_, ?_⟩
  · have hne : Text.Utf8.encode (opening ++ text) ≠ [] := by
      rw [ne_eq, Text.Utf8.encode_eq_nil, String.append_eq_empty_iff]
      exact fun h => hspells.ne_empty (exists_solid_part hrule) h.2
    rw [hfingerprint, Text.Utf8.encode_append, List.length_append]
    have hpos := List.length_pos_iff.2 hne
    omega
  · intro q
    exact Payload.fingerprint_congr unbanked hrule

/-- A MoneyGram account without a state. -/
def Payload.stateless (id : String) (salt : List UInt8)
    (currencies : List String) : Payload Instrument where
  id := id
  salt := salt
  instrument := .countryBased <| .moneyGram
    { country := "US"
      details :=
        { selectedCurrencyCodes := currencies
          holderName := "Ada Moss"
          email := "ada@moss.org"
          state := none } }

/-- A MoneyGram account without a state, and another one that differs in
everything that the rule does not ask for. -/
theorem fingerprint_spells_stateless :
    (Payload.stateless "a" [1] ["USD"]).verify = .ok ()
      ∧ (Payload.stateless "a" [1] ["USD"]).instrument.family ≠ .bank
      ∧ (∃ text, (Payload.stateless "a" [1] ["USD"]).fingerprint
          = Text.Utf8.encode ("MONEY_GRAM" ++ ("US" ++ text)))
      ∧ (Payload.stateless "b" [2, 3] ["EUR", "USD"]).fingerprint
        = (Payload.stateless "a" [1] ["USD"]).fingerprint := by
  have verified : (Payload.stateless "a" [1] ["USD"]).verify = .ok () := rfl
  obtain ⟨-, rule, opening, text, hrule, htext, hopens, -, -, hdepends⟩ :=
    fingerprint_spells _ verified (by decide)
  cases hrule
  obtain ⟨-, hcountry⟩ | ⟨hbase, -⟩ := hopens
  · cases hcountry
    exact ⟨verified, by decide, ⟨text, htext⟩,
      hdepends _ rfl (fun _ => rfl) fun _ _ => rfl⟩
  · cases hbase

end FiatAccounts

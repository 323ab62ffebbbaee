/-
The rails on which a fingerprint says what it was made from.

Nothing stands between the parts of a fingerprint, so two instruments can run
together to one text without having a value in common. They cannot where the
rule names one field, or where it is known of every field but the last how wide
it is (`Fingerprint.Aligned`). Such a text is taken apart in one way only, from
the left to the right (`Fingerprint.Spells.exists_common`).

The rails of `Rail.unambiguous` are of this kind. Their method ids tell them
apart. A country that stands in front of the fields is always the same, since a
rule that opens with it is for a rail that reaches one country. And the sort
code of the one rule with two fields has six digits.
-/
import FiatAccounts.Proofs.Fingerprint.Separation

namespace FiatAccounts

open Fingerprint Text.Utf8

-- ================================================= taking a text apart

/-- Texts that begin with pieces of one length agree piece by piece. -/
theorem Text.append_inj {text other rest otherRest : String}
    (h : text ++ rest = other ++ otherRest)
    (length : text.length = other.length) :
    text = other ∧ rest = otherRest := by
  rw [← String.length_toList, ← String.length_toList] at length
  rw [← String.toList_inj, String.toList_append, String.toList_append] at h
  obtain ⟨htext, hrest⟩ := List.append_inj h length
  exact ⟨String.toList_inj.1 htext, String.toList_inj.1 hrest⟩

namespace Fingerprint

variable {i j : Instrument} {rule : Rule} {name text : String}
  {parts : List Part}

/-- A rule opens in one way, if the country in front is the same. -/
theorem Rule.Opens.unique {country country' : Option String}
    {opening opening' : String} (h : rule.Opens country opening)
    (h' : rule.Opens country' opening')
    (same : rule.base = .methodAndCountry → country' = country) :
    opening' = opening := by
  rcases h with ⟨hbase, hcountry⟩ | ⟨hbase, hnone⟩
  · rcases h' with ⟨-, hcountry'⟩ | ⟨hbase', -⟩
    · rw [same hbase, hcountry, Option.some.injEq] at hcountry'
      exact hcountry'.symm
    · exact absurd (hbase.symm.trans hbase') nofun
  · rcases h' with ⟨hbase', -⟩ | ⟨-, hnone'⟩
    · exact absurd (hbase.symm.trans hbase') nofun
    · rw [hnone, hnone']

/-- Only a MoneyGram account can be without a state. -/
theorem Stateless.rail_eq (h : Stateless i) : i.rail = .moneyGram := by
  obtain ⟨d, rfl, -⟩ := h
  rfl

/-- No parts spell nothing. -/
theorem Spells.of_nil (h : Spells i [] text) : text = "" := by
  cases h
  rfl

/-- A fixed text stands in front of what the other parts spell. -/
theorem Spells.of_literal {fixed : String}
    (h : Spells i (.literal fixed :: parts) text) :
    ∃ rest, text = fixed ++ rest ∧ Spells i parts rest := by
  cases h with
  | literal tail => exact ⟨_, rfl, tail⟩

/-- Only a state can be passed over. -/
theorem Spells.of_field (h : Spells i (.field name :: parts) text)
    (stated : ¬Stateless i) :
    ∃ value rest, text = value ++ rest ∧ i.field? name = some (some value)
      ∧ Spells i parts rest := by
  cases h with
  | field named spoken tail => exact ⟨_, _, rfl, named, tail⟩
  | noState stateless tail => exact absurd stateless stated

/-- Parts that end with a field and before it name fields only that are as wide
in one instrument as in the other. -/
inductive Aligned (i j : Instrument) : List Part → Prop where
  | last {name : String} : Aligned i j [.field name]
  | literal {fixed : String} {parts : List Part} (tail : Aligned i j parts) :
      Aligned i j (.literal fixed :: parts)
  | field {name : String} {parts : List Part}
      (width : ∀ value other, i.field? name = some (some value) →
        j.field? name = some (some other) → value.length = other.length)
      (tail : Aligned i j parts) :
      Aligned i j (.field name :: parts)

/-- What two instruments spell alike with aligned parts, they have in common. -/
theorem Spells.exists_common (aligned : Aligned i j parts)
    (hi : Spells i parts text) (hj : Spells j parts text)
    (stated : ¬Stateless i ∧ ¬Stateless j) (h : .field name ∈ parts) :
    ∃ value, i.field? name = some (some value)
      ∧ j.field? name = some (some value) := by
  induction aligned generalizing text with
  | last =>
      obtain ⟨value, rest, rfl, hvalue, htail⟩ := hi.of_field stated.1
      obtain ⟨other, rest', heq, hother, htail'⟩ := hj.of_field stated.2
      -- nothing follows, so all that is left is the value
      rw [htail.of_nil, htail'.of_nil, String.append_empty,
        String.append_empty] at heq
      cases List.mem_singleton.1 h
      exact ⟨value, hvalue, heq ▸ hother⟩
  | literal tail ih =>
      obtain ⟨rest, rfl, htail⟩ := hi.of_literal
      obtain ⟨rest', heq, htail'⟩ := hj.of_literal
      rw [String.append_right_inj] at heq
      subst heq
      exact ih htail htail' ((List.mem_cons.1 h).resolve_left nofun)
  | field width tail ih =>
      obtain ⟨value, rest, rfl, hvalue, htail⟩ := hi.of_field stated.1
      obtain ⟨other, rest', heq, hother, htail'⟩ := hj.of_field stated.2
      -- values of one width end at the same place
      obtain ⟨rfl, rfl⟩ :=
        Text.append_inj heq (width value other hvalue hother)
      rcases List.mem_cons.1 h with hname | hmem
      · cases hname
        exact ⟨value, hvalue, hother⟩
      · exact ih htail htail' hmem

end Fingerprint

-- =========================================================== the rails

/-- The rails whose rule names one field, or fields of which only the last can
be of any width. -/
def Rail.unambiguous : List Rail :=
  [.zelle, .halCash, .fasterPayments, .revolut, .uphold, .custom,
   .amazonGiftCard, .swish, .bizum, .promptPay, .strike, .upi, .wiseUsd, .pin4,
   .swift]

namespace Rail

variable {rail other : Rail} {rule : Rule}

/-- These rails are not for bank accounts. Where the rule opens with the
country, the rail reaches one country only. -/
theorem rule_of_unambiguous (h : rail ∈ unambiguous)
    (hrule : rule? rail = some rule) :
    rule.family ≠ .bank
      ∧ (rule.base = .methodAndCountry →
        ∃ code, rail.countryCodes = [code]) := by
  have hall : ∀ r ∈ unambiguous, ∀ rule ∈ rule? r, rule.family ≠ .bank
      ∧ (rule.base = .methodAndCountry → r.countryCodes.length = 1) := by
    decide
  obtain ⟨hfamily, hcountry⟩ := hall rail h rule hrule
  exact ⟨hfamily, fun hbase => List.length_eq_one_iff.1 (hcountry hbase)⟩

/-- No method id among them goes on where another one ends. -/
theorem diverge_of_unambiguous (h : rail ∈ unambiguous)
    (hother : other ∈ unambiguous) (hne : rail ≠ other) :
    Diverge rail.methodId other.methodId := by
  have hextended : ∀ a ∈ unambiguous, ∀ b ∈ unambiguous, ¬a.Extended b := by
    decide
  rcases methodId_diverge hne with hdiverge | hforth | hback
  · exact hdiverge
  · exact absurd hforth (hextended rail h other hother)
  · exact absurd hback (hextended other hother rail h)

end Rail

/-- The rail of the Faster Payments has one kind of instrument. -/
theorem Instrument.exists_fasterPayments {i : Instrument}
    (h : i.rail = .fasterPayments) : ∃ d, i = .fasterPayments d := by
  cases i
  case fasterPayments d => exact ⟨d, rfl⟩
  case countryBased c =>
    cases c
    case bank b => cases b <;> cases h
    all_goals cases h
  all_goals cases h

-- ===================================================== one fingerprint

namespace Payload

section

variable {p : Payload Instrument} {rule : Rule}

/-- A sort code has six digits. -/
theorem length_sortCode (verified : p.verify = .ok ())
    (rail : p.rail = .fasterPayments) {value : String}
    (h : p.instrument.field? "sort_code" = some (some value)) :
    value.length = 6 := by
  have hfields := (verify_eq_ok.1 verified).2.2
  obtain ⟨d, hd⟩ := Instrument.exists_fasterPayments rail
  rw [hd] at h hfields
  cases h
  obtain ⟨-, hrest⟩ := bind_unit_eq_ok.1 (Check.raise_eq_ok.1 hfields)
  obtain ⟨hsortCode, -⟩ := bind_unit_eq_ok.1 hrest
  obtain ⟨-, hmin, hmax⟩ :=
    Check.requiredText_eq_ok.1 (bind_unit_eq_ok.1 hsortCode).1
  exact Nat.le_antisymm hmax hmin

/-- None of these rails is for bank accounts. -/
theorem unbanked_of_unambiguous (h : p.rail ∈ Rail.unambiguous) :
    p.instrument.family ≠ .bank := by
  obtain ⟨rule, hrule, hfamily⟩ := p.instrument.exists_rule
  rw [← hfamily]
  exact (Rail.rule_of_unambiguous h hrule).1

/-- None of their instruments leaves a state out. -/
theorem stated_of_unambiguous (h : p.rail ∈ Rail.unambiguous) :
    ¬Stateless p.instrument := by
  intro hstate
  have hrail : p.rail = .moneyGram := hstate.rail_eq
  rw [hrail] at h
  exact absurd h (by decide)

/-- A country that the fingerprint opens with is the only one of its rail. -/
theorem country_of_unambiguous (verified : p.verify = .ok ())
    (h : p.rail ∈ Rail.unambiguous) (hrule : rule? p.rail = some rule)
    (hbase : rule.base = .methodAndCountry) :
    ∃ code, p.rail.countryCodes = [code] ∧ p.country = some code := by
  have answers := answers_rule hrule (unbanked_of_unambiguous h)
  obtain ⟨code, hcodes⟩ := (Rail.rule_of_unambiguous h hrule).2 hbase
  obtain ⟨country, hcountry⟩ :=
    Option.ne_none_iff_exists'.1 (answers.country hbase)
  have hmem := (country_of_verify verified hcountry).2
  rw [hcodes, List.mem_singleton] at hmem
  subst hmem
  exact ⟨country, hcodes, hcountry⟩

end

-- ===================================================== two of one rail

section

variable {p q : Payload Instrument} {rule : Rule} (hp : p.verify = .ok ())
  (hq : q.verify = .ok ()) (same : q.rail = p.rail)
  (unambiguous : p.rail ∈ Rail.unambiguous)
  (hrule : rule? p.rail = some rule)

include hp hq same unambiguous hrule

/-- Two payloads of a rail whose fingerprints open with the country are of one
country, since the rail reaches no other. -/
theorem country_eq_of_unambiguous (hbase : rule.base = .methodAndCountry) :
    q.country = p.country := by
  obtain ⟨code, hcodes, hcountry⟩ :=
    country_of_unambiguous hp unambiguous hrule hbase
  rw [← same] at unambiguous hrule hcodes
  obtain ⟨other, hothers, hother⟩ :=
    country_of_unambiguous hq unambiguous hrule hbase
  rw [hcodes] at hothers
  cases hothers
  rw [hcountry, hother]

/-- The parts of two payloads of such a rail are aligned. Most rules have one
field, which is the last part, and the first of the two fields of the Faster
Payments has one length. -/
theorem aligned_of_unambiguous :
    Aligned p.instrument q.instrument rule.parts := by
  cases hrail : p.rail
  case fasterPayments =>
    rw [hrail] at hrule
    cases hrule
    refine .field (fun value other hvalue hother => ?_) .last
    rw [length_sortCode hp hrail hvalue,
      length_sortCode hq (same.trans hrail) hother]
  case amazonGiftCard =>
    rw [hrail] at hrule
    cases hrule
    exact .literal .last
  case zelle | halCash | revolut | uphold | custom | swish | bizum
      | promptPay | strike | upi | wiseUsd | pin4 | swift =>
    rw [hrail] at hrule
    cases hrule
    exact .last
  all_goals exact absurd (hrail ▸ unambiguous) (by decide)

/-- Every value that the rule asks for can be read off the fingerprint. -/
theorem exists_common_of_fingerprint_eq (h : p.fingerprint = q.fingerprint)
    {name : String} (hname : .field name ∈ rule.parts) :
    ∃ value, p.instrument.field? name = some (some value)
      ∧ q.instrument.field? name = some (some value) := by
  have hunambiguous : q.rail ∈ Rail.unambiguous := same ▸ unambiguous
  have hqrule : rule? q.rail = some rule := same ▸ hrule
  obtain ⟨opening, text, hpeq, hpopens, hpspells⟩ :=
    p.exists_spelled hp (unbanked_of_unambiguous unambiguous) hrule
  obtain ⟨opening', text', hqeq, hqopens, hqspells⟩ :=
    q.exists_spelled hq (unbanked_of_unambiguous hunambiguous) hqrule
  have hopening : opening' = opening :=
    hpopens.unique hqopens
      (country_eq_of_unambiguous hp hq same unambiguous hrule)
  have htext : text = text' := by
    rw [hpeq, hqeq, same, hopening] at h
    have hrest := (String.append_right_inj _).1 (encode_inj h)
    exact (String.append_right_inj _).1 hrest
  subst htext
  exact hpspells.exists_common
    (aligned_of_unambiguous hp hq same unambiguous hrule) hqspells
    ⟨stated_of_unambiguous unambiguous, stated_of_unambiguous hunambiguous⟩
    hname

end

/-- A Faster Payments account. -/
def fasterPayments (holderName sortCode accountNr : String) :
    Payload Instrument where
  id := "a"
  salt := [1]
  instrument := .fasterPayments ⟨holderName, sortCode, accountNr⟩

end Payload

-- ============================================================ identity

/-- On the unambiguous rails a fingerprint is an identity. Two verified payloads
have the same one exactly if they are of one rail and have the same value in
every field that the rule of the rail names. -/
theorem fingerprint_identifies (p q : Payload Instrument)
    (hp : p.verify = .ok ()) (hq : q.verify = .ok ())
    (hprail : p.rail ∈ Rail.unambiguous) (hqrail : q.rail ∈ Rail.unambiguous) :
    ∃ rule, rule? p.rail = some rule
      ∧ (p.fingerprint = q.fingerprint
        ↔ p.rail = q.rail ∧ ∀ name ∈ rule.names, ∃ value,
          p.instrument.field? name = some (some value)
            ∧ q.instrument.field? name = some (some value)) := by
  obtain ⟨rule, hrule, -⟩ := p.instrument.exists_rule
  refine ⟨rule, hrule, ?_, ?_⟩
  · intro h
    have hrail : p.rail = q.rail := by
      by_contra hne
      have hdiverge := Rail.diverge_of_unambiguous hprail hqrail hne
      exact Payload.fingerprint_ne_of_diverge hdiverge h
    refine ⟨hrail, fun name hname => ?_⟩
    exact Payload.exists_common_of_fingerprint_eq hp hq hrail.symm hprail hrule
      h (Rule.mem_names.1 hname)
  · rintro ⟨hrail, hcommon⟩
    have hunbanked := Payload.unbanked_of_unambiguous hprail
    refine (Payload.fingerprint_congr hunbanked hrule hrail.symm ?_ ?_).symm
    · exact Payload.country_eq_of_unambiguous hp hq hrail.symm hprail hrule
    · intro name hname
      obtain ⟨value, hvalue, hother⟩ := hcommon name (Rule.mem_names.2 hname)
      rw [hvalue, hother]

/-- The name of the holder is no part of the identity. Both numbers are. -/
theorem fingerprint_identifies_fasterPayments :
    (Payload.fasterPayments "Ada Moss" "112233" "12345678").verify = .ok ()
      ∧ (Payload.fasterPayments "Bo Moss" "112233" "12345678").verify = .ok ()
      ∧ (Payload.fasterPayments "Bo Moss" "112231" "22345678").verify = .ok ()
      ∧ (Payload.fasterPayments "Ada Moss" "112233" "12345678").fingerprint
        = (Payload.fasterPayments "Bo Moss" "112233" "12345678").fingerprint
      ∧ (Payload.fasterPayments "Ada Moss" "112233" "12345678").fingerprint
        ≠ (Payload.fasterPayments "Bo Moss" "112231" "22345678").fingerprint
      := by
  have hada : (Payload.fasterPayments "Ada Moss" "112233" "12345678").verify
      = .ok () := rfl
  have hbo : (Payload.fasterPayments "Bo Moss" "112233" "12345678").verify
      = .ok () := rfl
  have hother : (Payload.fasterPayments "Bo Moss" "112231" "22345678").verify
      = .ok () := rfl
  refine ⟨hada, hbo, hother, ?_, ?_⟩
  · obtain ⟨rule, hrule, hidentity⟩ :=
      fingerprint_identifies _ _ hada hbo (by decide) (by decide)
    cases hrule
    refine hidentity.2 ⟨rfl, fun name hname => ?_⟩
    rcases List.mem_pair.1 hname with rfl | rfl
    · exact ⟨_, rfl, rfl⟩
    · exact ⟨_, rfl, rfl⟩
  · intro h
    obtain ⟨rule, hrule, hidentity⟩ :=
      fingerprint_identifies _ _ hada hother (by decide) (by decide)
    cases hrule
    obtain ⟨value, hvalue, hsame⟩ := (hidentity.1 h).2 "sort_code" (by decide)
    cases hvalue
    exact absurd hsame (by decide)

end FiatAccounts

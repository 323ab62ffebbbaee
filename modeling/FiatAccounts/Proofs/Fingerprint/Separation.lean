/-
Fingerprints of different rails.

Nothing stands between the parts of a fingerprint, so a method id tells its rail
from another one only if neither method id begins with the other
(`Text.Utf8.Diverge`). Two pairs of rails are left (`Rail.Extended`), where the
shorter method id is followed by other parts in one fingerprint and by an
underscore in the other. After the method id of plain SEPA stands a country of
the catalog, and no code there begins as the longer method id goes on. After the
method id of Wise stands an e-mail address, which may begin in any such way. So
the two kinds of Wise account can meet, and no other accounts do.
-/
import FiatAccounts.Proofs.Fingerprint.Layout
import FiatAccounts.Proofs.Payload.Sepa

namespace FiatAccounts

-- ====================================================== diverging texts

/-- Neither text begins with the other. -/
def Text.Utf8.Diverge (text other : String) : Prop :=
  ¬ encode text <+: encode other ∧ ¬ encode other <+: encode text

namespace Text.Utf8

variable {text other : String}

instance : Decidable (Diverge text other) :=
  inferInstanceAs (Decidable (_ ∧ _))

/-- Texts that diverge do so however they go on. -/
theorem Diverge.encode_append_ne (h : Diverge text other)
    (rest otherRest : String) :
    encode (text ++ rest) ≠ encode (other ++ otherRest) := by
  rw [encode_append, encode_append]
  intro heq
  have htext := List.prefix_append (encode text) (encode rest)
  have hother := List.prefix_append (encode other) (encode otherRest)
  rw [← heq] at hother
  obtain hbegins | hbegins := List.prefix_or_prefix_of_prefix htext hother
  · exact h.1 hbegins
  · exact h.2 hbegins

end Text.Utf8

open Text.Utf8 Fingerprint

-- =========================================================== method ids

/-- The method id of the second rail goes on where that of the first ends. -/
def Rail.Extended (rail other : Rail) : Prop :=
  rail = .sepa ∧ other = .sepaInstant ∨ rail = .wise ∧ other = .wiseUsd

instance (rail other : Rail) : Decidable (rail.Extended other) :=
  inferInstanceAs (Decidable (_ ∨ _))

/-- The method ids of two rails diverge, two pairs of rails aside. -/
theorem Rail.methodId_diverge {rail other : Rail} (h : rail ≠ other) :
    Diverge rail.methodId other.methodId
      ∨ Extended rail other ∨ Extended other rail := by
  have hall : ∀ a ∈ all, ∀ b ∈ all, encode a.methodId <+: encode b.methodId →
      a = b ∨ a.Extended b := by
    decide +kernel
  have hextended {a b : Rail} (hne : a ≠ b)
      (hab : encode a.methodId <+: encode b.methodId) : a.Extended b :=
    (hall a (mem_all a) b (mem_all b) hab).resolve_left hne
  by_cases hforth : encode rail.methodId <+: encode other.methodId
  · exact .inr (.inl (hextended h hforth))
  by_cases hback : encode other.methodId <+: encode rail.methodId
  · exact .inr (.inr (hextended h.symm hback))
  exact .inl ⟨hforth, hback⟩

/-- No country begins as the method id of instant SEPA goes on. -/
theorem Country.diverge_of_isKnown {code : String}
    (known : isKnown code = true) : Diverge code "_INSTANT" := by
  have hall : ∀ country ∈ all, Diverge country.code "_INSTANT" := by
    decide +kernel
  obtain ⟨country, hfind⟩ := Option.isSome_iff_exists.1 known
  have hcode := List.find?_some hfind
  rw [← eq_of_beq hcode]
  exact hall country (List.mem_of_find?_eq_some hfind)

-- ========================================================= fingerprints

namespace Payload

/-- A fingerprint is the method id of its rail and something more. -/
theorem exists_fingerprint_eq (p : Payload Instrument) :
    ∃ rest, p.fingerprint = encode (p.rail.methodId ++ rest) := by
  obtain ⟨rule, hrule, -⟩ := p.instrument.exists_rule
  exact ⟨_, fingerprint_eq hrule⟩

/-- Where the method ids diverge the fingerprints do. -/
theorem fingerprint_ne_of_diverge {p q : Payload Instrument}
    (h : Diverge p.rail.methodId q.rail.methodId) :
    p.fingerprint ≠ q.fingerprint := by
  obtain ⟨rest, hp⟩ := p.exists_fingerprint_eq
  obtain ⟨otherRest, hq⟩ := q.exists_fingerprint_eq
  rw [hp, hq]
  exact h.encode_append_ne rest otherRest

/-- In the fingerprint of a verified SEPA account a country of the catalog
follows the method id. -/
theorem exists_fingerprint_sepa {p : Payload Instrument}
    (verified : p.verify = .ok ()) (sepa : p.rail = .sepa) :
    ∃ code rest, Country.isKnown code = true
      ∧ p.fingerprint = encode ("SEPA" ++ (code ++ rest)) := by
  obtain ⟨rule, hrule, hfamily⟩ := p.instrument.exists_rule
  -- the rail alone says which rule it is, so no look at the instrument
  have hsepa : some rule = rule? .sepa := sepa ▸ hrule.symm
  cases hsepa
  have hunbanked : p.instrument.family ≠ .bank := hfamily ▸ nofun
  obtain ⟨code, rest, hfingerprint, hopens, -⟩ :=
    p.exists_spelled verified hunbanked hrule
  rw [sepa] at hfingerprint
  obtain ⟨-, hcode⟩ | ⟨hbase, -⟩ := hopens
  · exact ⟨code, rest, isKnown_of_verify verified hcode, hfingerprint⟩
  · cases hbase

/-- SEPA accounts of the two kinds have different fingerprints. -/
theorem fingerprint_sepa_ne {p q : Payload Instrument}
    (verified : p.verify = .ok ()) (plain : p.rail = .sepa)
    (instant : q.rail = .sepaInstant) : p.fingerprint ≠ q.fingerprint := by
  obtain ⟨code, rest, known, hp⟩ := exists_fingerprint_sepa verified plain
  obtain ⟨rest', hq⟩ := q.exists_fingerprint_eq
  have hmethod : q.rail.methodId = "SEPA" ++ "_INSTANT" := by
    rw [instant]
    rfl
  rw [hp, hq, hmethod, String.append_assoc, encode_append, encode_append]
  intro heq
  have hrest := List.append_cancel_left heq
  exact (Country.diverge_of_isKnown known).encode_append_ne _ _ hrest

/-- The fingerprint of a Wise account. -/
theorem fingerprint_wise_eq {p : Payload Instrument} {w : InCountry Wise}
    (wise : p.instrument = .countryBased (.wise w)) :
    p.fingerprint
      = encode ("TRANSFERWISE"
        ++ (w.details.email ++ w.details.holderName)) := by
  have hprofile : p.instrument.profile = w.details.profile w.country := by
    rw [wise]
    rfl
  unfold fingerprint
  rw [hprofile]
  rfl

/-- The fingerprint of a Wise account in US dollars. -/
theorem fingerprint_wiseUsd_eq {p : Payload Instrument} {u : WiseUsd}
    (wiseUsd : p.instrument = .countryBased (.wiseUsd u)) :
    p.fingerprint
      = encode ("TRANSFERWISE" ++ ("_USDUS" ++ u.holderName)) := by
  have hprofile : p.instrument.profile = u.profile := by
    rw [wiseUsd]
    rfl
  unfold fingerprint
  rw [hprofile]
  -- `_USD` ends the method id, and `US` is the only country there
  rfl

/-- Accounts of the two kinds of Wise meet where one's e-mail address and name
read as the rest of the other's method id, its country and its name. -/
theorem fingerprint_wise_eq_iff {p q : Payload Instrument} {w : InCountry Wise}
    {u : WiseUsd} (wise : p.instrument = .countryBased (.wise w))
    (wiseUsd : q.instrument = .countryBased (.wiseUsd u)) :
    p.fingerprint = q.fingerprint
      ↔ w.details.email ++ w.details.holderName
        = "_USDUS" ++ u.holderName := by
  rw [fingerprint_wise_eq wise, fingerprint_wiseUsd_eq wiseUsd]
  constructor
  · intro h
    exact (String.append_right_inj _).1 (encode_inj h)
  · intro h
    rw [h]

/-- A Wise account in euros. -/
def wise (email holderName : String) : Payload Instrument where
  id := "a"
  salt := [1]
  instrument := .countryBased <| .wise ⟨"DE", ⟨["EUR"], holderName, email⟩⟩

/-- A Wise account in US dollars. -/
def wiseUsd (holderName : String) : Payload Instrument where
  id := "a"
  salt := [1]
  instrument := .countryBased <| .wiseUsd
    ⟨holderName, "ada@example.org", "1 Elm St, Springfield"⟩

/-- SEPA accounts of the two kinds with the same details. -/
def sepa (kind : InCountry Sepa → CountryInstrument) : Payload Instrument where
  id := "a"
  salt := [1]
  instrument := .countryBased <| kind
    ⟨"DE", ⟨"Ada Moss", "DE89370400440532013000", "COBADEFFXXX", ["DE"]⟩⟩

end Payload

-- ============================================================ separation

/-- Verified payloads of different rails have different fingerprints, unless one
is a Wise account and the other a Wise account in US dollars. These two have the
same fingerprint exactly if the e-mail address and the name of the first read as
`_USDUS` and the name of the second, and there are verified ones that do. -/
theorem fingerprint_separates :
    (∀ p q : Payload Instrument, p.verify = .ok () → q.verify = .ok ()
      → p.rail ≠ q.rail
      → ¬ (p.rail = .wise ∧ q.rail = .wiseUsd)
      → ¬ (q.rail = .wise ∧ p.rail = .wiseUsd)
      → p.fingerprint ≠ q.fingerprint)
    ∧ (∀ (p q : Payload Instrument) (w : InCountry Wise) (u : WiseUsd),
      p.instrument = .countryBased (.wise w)
      → q.instrument = .countryBased (.wiseUsd u)
      → (p.fingerprint = q.fingerprint
        ↔ w.details.email ++ w.details.holderName = "_USDUS" ++ u.holderName))
    ∧ ∃ (p q : Payload Instrument) (w : InCountry Wise) (u : WiseUsd),
      p.verify = .ok () ∧ q.verify = .ok ()
        ∧ p.instrument = .countryBased (.wise w)
        ∧ q.instrument = .countryBased (.wiseUsd u)
        ∧ w.details.email ++ w.details.holderName
          = "_USDUS" ++ u.holderName := by
  refine ⟨?_, ?_, ?_⟩
  · intro p q hp hq hrails hforth hback
    obtain hdiverge | hextended | hextended := Rail.methodId_diverge hrails
    · exact Payload.fingerprint_ne_of_diverge hdiverge
    · obtain ⟨hplain, hinstant⟩ | hwise := hextended
      · exact Payload.fingerprint_sepa_ne hp hplain hinstant
      · exact absurd hwise hforth
    · obtain ⟨hplain, hinstant⟩ | hwise := hextended
      · exact (Payload.fingerprint_sepa_ne hq hplain hinstant).symm
      · exact absurd hwise hback
  · intro p q w u wise wiseUsd
    exact Payload.fingerprint_wise_eq_iff wise wiseUsd
  · exact ⟨.wise "_USDUS@example.org" "Ada", .wiseUsd "@example.orgAda", _, _,
      rfl, rfl, rfl, rfl, by decide⟩

/-- Two SEPA accounts that differ in their rail only, and two Wise accounts that
meet. -/
theorem fingerprint_separates_sepa :
    (Payload.sepa .sepa).verify = .ok ()
      ∧ (Payload.sepa .sepaInstant).verify = .ok ()
      ∧ (Payload.sepa .sepa).fingerprint
        ≠ (Payload.sepa .sepaInstant).fingerprint
      ∧ (Payload.wise "_USDUS@example.org" "Ada").fingerprint
        = (Payload.wiseUsd "@example.orgAda").fingerprint
      ∧ (Payload.wise "ada@example.org" "Ada").fingerprint
        ≠ (Payload.wiseUsd "Ada").fingerprint := by
  have hplain : (Payload.sepa .sepa).verify = .ok () :=
    (verify_sepa_iff .sepa (.inl rfl) rfl rfl).2 (by decide +kernel)
  have hinstant : (Payload.sepa .sepaInstant).verify = .ok () :=
    (verify_sepa_iff .sepaInstant (.inr rfl) rfl rfl).2 (by decide +kernel)
  obtain ⟨hseparate, hmeet, -⟩ := fingerprint_separates
  refine ⟨hplain, hinstant, ?_, ?_, ?_⟩
  · exact hseparate _ _ hplain hinstant nofun nofun nofun
  · exact (hmeet _ _ _ _ rfl rfl).2 (by decide)
  · intro h
    have htext := (hmeet _ _ _ _ rfl rfl).1 h
    exact absurd htext (by decide)

end FiatAccounts

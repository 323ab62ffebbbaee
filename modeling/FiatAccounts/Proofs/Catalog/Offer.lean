/-
The rails that are offered for a currency.

A rail is offered for the codes that it settles. The one exception is the
transfers between the banks of a country. They settle every currency of the
catalog, but they are offered by a rule of their own, which turns the euro away
and asks nothing else of a code. Among the currencies of the catalog this makes
no other difference than the euro.

Every list of currencies is drawn from the catalog, so no rail settles a code
that the catalog does not know (`Rail.isKnown_of_supportsCurrency`). The rule of
the transfers between banks does not look there: for such a code they are
offered still, and they alone.
-/
import FiatAccounts.Proofs.Catalog.Coverage

namespace FiatAccounts.Rail

variable {rail : Rail} {code : String}

-- =================================================== what rails settle

/-- What a rail settles is a currency of the catalog. -/
theorem isKnown_of_supportsCurrency (h : rail.supportsCurrency code = true) :
    Currency.isKnown code = true := by
  have hlists : ∀ r ∈ all, r.currencies ≠ .all →
      r.currencyCodes ⊆ Currency.codes := by
    decide +kernel
  by_cases hall : rail.currencies = .all
  · unfold supportsCurrency at h
    rw [hall] at h
    exact h
  · rw [Currency.isKnown_iff]
    exact hlists rail (mem_all rail) hall (supportsCurrency_iff.1 h)

/-- No rail settles what the catalog does not know. -/
theorem supportsCurrency_of_not_isKnown
    (unknown : Currency.isKnown code = false) :
    rail.supportsCurrency code = false := by
  rw [Bool.eq_false_iff]
  intro hsettles
  rw [isKnown_of_supportsCurrency hsettles] at unknown
  cases unknown

-- ===================================================== what is offered

/-- Every rail is offered for what it settles, except the transfers between
banks, which are offered for anything but the euro. -/
theorem mem_forCurrency :
    rail ∈ forCurrency code
      ↔ if rail = .nationalBank then code ≠ "EUR"
        else rail.supportsCurrency code = true := by
  unfold forCurrency
  rw [List.mem_filter, and_iff_right (mem_all rail)]
  split
  · exact bne_iff_ne
  · exact Iff.rfl

/-- Rails are offered in the order of the catalog, and each of them once. -/
theorem forCurrency_sublist : (forCurrency code).Sublist all :=
  List.filter_sublist

/-- No rail is offered twice. -/
theorem nodup_forCurrency : (forCurrency code).Nodup :=
  forCurrency_sublist.nodup (by decide)

/-- For a currency of the catalog a rail is offered if it settles the currency,
but for the transfers between banks in euros. -/
theorem mem_forCurrency_of_isKnown (known : Currency.isKnown code = true) :
    rail ∈ forCurrency code
      ↔ rail.supportsCurrency code = true
        ∧ ¬(rail = .nationalBank ∧ code = "EUR") := by
  rw [mem_forCurrency]
  split
  next hbank =>
    -- these transfers settle whatever the catalog knows
    have hsettles : rail.supportsCurrency code = true := by
      rw [hbank]
      exact known
    rw [and_iff_right hsettles, not_and]
    exact ⟨fun h _ => h, fun h => h hbank⟩
  next hrail =>
    have heuro : ¬(rail = .nationalBank ∧ code = "EUR") := fun h => hrail h.1
    rw [and_iff_left heuro]

/-- For a code that the catalog does not know, the transfers between banks are
offered, and nothing else is. -/
theorem forCurrency_of_not_isKnown (unknown : Currency.isKnown code = false) :
    forCurrency code = [.nationalBank] := by
  have heuro : code ≠ "EUR" := by
    rintro rfl
    exact absurd unknown (by decide)
  have hrule (r : Rail) :
      (if r = .nationalBank then code != "EUR" else r.supportsCurrency code)
        = decide (r = .nationalBank) := by
    by_cases hbank : r = .nationalBank
    · rw [if_pos hbank, decide_eq_true hbank]
      exact bne_iff_ne.2 heuro
    · rw [if_neg hbank, decide_eq_false hbank]
      exact supportsCurrency_of_not_isKnown unknown
  unfold forCurrency
  rw [List.filter_congr fun r _ => hrule r]
  rfl

/-- Rails are offered in the order of the catalog and without repetition. For a
currency of the catalog they are those that settle it, the transfers between
banks left out for the euro. For any other code these transfers are offered
alone, although they do not settle it. -/
theorem forCurrency_settles (code : String) :
    (forCurrency code).Sublist all
      ∧ (forCurrency code).Nodup
      ∧ (Currency.isKnown code = true → ∀ rail,
          rail ∈ forCurrency code
            ↔ rail.supportsCurrency code = true
              ∧ ¬(rail = .nationalBank ∧ code = "EUR"))
      ∧ (Currency.isKnown code = false →
          forCurrency code = [.nationalBank]
            ∧ ∀ rail : Rail, rail.supportsCurrency code = false) := by
  refine ⟨forCurrency_sublist, nodup_forCurrency, ?_, ?_⟩
  · intro known rail
    exact mem_forCurrency_of_isKnown known
  · intro unknown
    exact ⟨forCurrency_of_not_isKnown unknown,
      fun _ => supportsCurrency_of_not_isKnown unknown⟩

/-- Two codes that differ in their case: one is the euro, the other is nothing
that the catalog knows. -/
theorem forCurrency_settles_euro :
    Currency.isKnown "EUR" = true
      ∧ sepa ∈ forCurrency "EUR" ∧ nationalBank ∉ forCurrency "EUR"
      ∧ Currency.isKnown "eur" = false
      ∧ forCurrency "eur" = [.nationalBank] := by
  have known : Currency.isKnown "EUR" = true := by decide
  have unknown : Currency.isKnown "eur" = false := by decide
  have hoffered := (forCurrency_settles "EUR").2.2.1 known
  refine ⟨known, (hoffered sepa).2 ⟨by decide, nofun⟩, ?_, unknown, ?_⟩
  · intro h
    exact ((hoffered nationalBank).1 h).2 ⟨rfl, rfl⟩
  · exact ((forCurrency_settles "eur").2.2.2 unknown).1

/-- Transfers between banks are offered for a code that they do not settle. -/
theorem unsettled_offered :
    nationalBank ∈ forCurrency "BTC"
      ∧ ¬(nationalBank.supportsCurrency "BTC" = true
        ∧ ¬(nationalBank = .nationalBank ∧ "BTC" = "EUR")) := by
  decide +kernel

end FiatAccounts.Rail

/-
The catalogs answer in two ways, and the answers agree.

A code can be looked up, and the codes can be listed. A rail's coverage is asked
for in the same two ways, and where a rail covers everything both questions are
passed on to the catalog. So a code is found exactly when it is listed
(`Rail.supportsCountry_iff`, `Rail.supportsCurrency_iff`), whatever text it is.

The single euro payments area is listed by currency where the countries are and
by code where the rails are. The one list is the other one sorted
(`Rail.sepaCountries_eq`), and where a rule takes the list from makes no
difference.
-/
import FiatAccounts.Catalog.Coverage
import Mathlib.Data.List.Sort
import Mathlib.Data.String.Basic

namespace FiatAccounts

variable {code : String}

-- ============================================================ catalogs

/-- A country is found by a code exactly when the code is listed. -/
theorem Country.isKnown_iff : isKnown code = true ↔ code ∈ codes := by
  unfold isKnown find? codes
  rw [List.find?_isSome, List.mem_map]
  exact exists_congr fun country => and_congr_right' beq_iff_eq

theorem Currency.isKnown_iff : isKnown code = true ↔ code ∈ codes := by
  unfold isKnown find? codes
  rw [List.find?_isSome, List.mem_map]
  exact exists_congr fun currency => and_congr_right' beq_iff_eq

/-- Sorting the two lists of the area neither adds a member nor loses one. -/
theorem Country.mem_sepaCodes :
    code ∈ sepaCodes ↔ code ∈ sepaEuroCodes ∨ code ∈ sepaNonEuroCodes := by
  unfold sepaCodes
  rw [List.mem_mergeSort, List.mem_append]

/-- The area has its members in one list, and in two by their currency. -/
theorem Country.isSepa_iff : isSepa code = true ↔ code ∈ sepaCodes := by
  unfold isSepa
  rw [Bool.or_eq_true, List.contains_iff_mem, List.contains_iff_mem,
    mem_sepaCodes]

-- ============================================================ coverage

/-- What is covered is listed, if what is known is. -/
theorem Coverage.covers_iff {known : String → Bool} {everything : List String}
    (h : known code = true ↔ code ∈ everything) {coverage : Coverage} :
    coverage.covers known code = true ↔ code ∈ coverage.resolve everything := by
  cases coverage with
  | all => exact h
  | only codes => exact List.contains_iff_mem

namespace Rail

variable {rail : Rail}

/-- Every rail is listed. -/
theorem mem_all (rail : Rail) : rail ∈ all := by
  cases rail <;> decide

/-- The rails write out what the catalog of countries puts together: a sorted
list is determined by what it is a permutation of. -/
theorem sepaCountries_eq : sepaCountries = Country.sepaCodes := by
  have hsorted : sepaCountries.Pairwise (· ≤ ·) := by decide
  have hperm :
      sepaCountries.Perm (Country.sepaEuroCodes ++ Country.sepaNonEuroCodes) :=
    by decide
  exact (hperm.trans (List.mergeSort_perm _ _).symm).eq_of_pairwise' hsorted
    (List.pairwise_mergeSort' _ _)

/-- A rail reaches the countries that it lists. -/
theorem supportsCountry_iff :
    rail.supportsCountry code = true ↔ code ∈ rail.countryCodes :=
  Coverage.covers_iff Country.isKnown_iff

theorem supportsCurrency_iff :
    rail.supportsCurrency code = true ↔ code ∈ rail.currencyCodes :=
  Coverage.covers_iff Currency.isKnown_iff

end Rail

end FiatAccounts

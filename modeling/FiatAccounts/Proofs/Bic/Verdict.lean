/-
Which texts are accepted as business identifier codes, and what is wrong with
the others.

A text that is no code is refused for a pattern, and for which one depends on
what is looked at first. The codes of one institution are refused last, so that
is said of codes only and of no other text that opens with the same letters.
`BicVerdict` says of every outcome for which texts it comes out. Its cases leave
no text out and exclude each other, whatever the order of the check.
-/
import FiatAccounts.Proofs.Bic.Stored
import FiatAccounts.Proofs.Check.Passed

namespace FiatAccounts.Check

variable {value : String}

/-- The text can be put together from the parts of a code. -/
def IsBusinessCode (value : String) : Prop :=
  ∃ code : BusinessCode, code.text = value

/-- The text opens as the codes of the one institution do whose accounts are not
reached by transfers of the area. -/
def OpensBarred (value : String) : Prop :=
  ['R', 'E', 'V', 'O'] <+: value.toList

/-- The outcomes that the rule allows for a text. -/
inductive BicVerdict (value : String) : Check → Prop where
  | empty (none : value = "") : BicVerdict value (fail "bic" .empty)
  | pattern (some : value ≠ "") (broken : ¬IsBusinessCode value)
      (expected : String) :
    BicVerdict value (fail "bic" (.pattern expected))
  | barred (code : IsBusinessCode value) (opens : OpensBarred value) :
    BicVerdict value (fail "bic" (.notAllowed value))
  | accepted (code : IsBusinessCode value) (free : ¬OpensBarred value) :
    BicVerdict value pass

/-- The prefix is asked for by its four characters. -/
theorem opensBarred_iff :
    OpensBarred value ↔ value.toList.take 4 = ['R', 'E', 'V', 'O'] := by
  rw [OpensBarred, List.prefix_iff_eq_take]
  exact eq_comm

/-- What is not refused for a pattern is refused for its institution or not at
all. -/
theorem bic_of_rules (h : BicRules value) :
    bic value
      = if value.toList.take 4 = ['R', 'E', 'V', 'O'] then
          fail "bic" (.notAllowed value)
        else pass := by
  have hempty : value ≠ "" := by
    rintro rfl
    exact absurd h.size (by decide)
  have hsize : ¬(value.utf8ByteSize ≠ 8 ∧ value.utf8ByteSize ≠ 11) := by
    have := h.size
    omega
  unfold bic
  dsimp only
  rw [if_neg hempty, if_neg hsize, if_neg (not_refused_iff.2 h.lettered),
    if_neg (not_or.2 h.first), if_neg h.last,
    if_neg fun hx => hx.2 (h.branch hx.1)]

/-- If no refusal for a pattern applies the text obeys the rules, so one applies
to every text that does not. -/
theorem exists_pattern_of_not_rules (hempty : value ≠ "")
    (h : ¬BicRules value) :
    ∃ expected, bic value = fail "bic" (.pattern expected) := by
  unfold bic
  dsimp only
  rw [if_neg hempty]
  split
  next => exact ⟨_, rfl⟩
  next hsize =>
    split
    next => exact ⟨_, rfl⟩
    next hlettered =>
      split
      next => exact ⟨_, rfl⟩
      next hfirst =>
        split
        next => exact ⟨_, rfl⟩
        next hlast =>
          split
          next => exact ⟨_, rfl⟩
          next hbranch =>
            -- no refusal is left, so every rule holds
            refine absurd ?_ h
            exact
              { size := by omega
                lettered := not_refused_iff.1 hlettered
                first := not_or.1 hfirst
                last := hlast
                branch := fun hx => of_not_not fun hne => hbranch ⟨hx, hne⟩ }

/-- The check gives one of the outcomes that the rule allows. -/
theorem bicVerdict_bic (value : String) : BicVerdict value (bic value) := by
  by_cases hempty : value = ""
  · subst hempty
    exact .empty rfl
  by_cases hrules : BicRules value
  · rw [bic_of_rules hrules]
    split
    next hopens =>
      exact .barred (bicRules_iff.1 hrules) (opensBarred_iff.2 hopens)
    next hfree =>
      exact .accepted (bicRules_iff.1 hrules) (mt opensBarred_iff.1 hfree)
  · obtain ⟨expected, hbic⟩ := exists_pattern_of_not_rules hempty hrules
    rw [hbic]
    exact .pattern hempty (mt bicRules_iff.2 hrules) expected

/-- A text is accepted if it is a code and not of the one institution. -/
theorem bic_eq_ok :
    bic value = .ok () ↔ IsBusinessCode value ∧ ¬OpensBarred value := by
  constructor
  · intro h
    have hverdict := bicVerdict_bic value
    rw [h] at hverdict
    cases hverdict with
    | accepted code free => exact ⟨code, free⟩
  · rintro ⟨code, free⟩
    rw [bic_of_rules (bicRules_iff.2 code), if_neg (mt opensBarred_iff.2 free)]
    rfl

/-- Only the empty text is refused as empty. -/
theorem bic_eq_empty : bic value = fail "bic" .empty ↔ value = "" := by
  constructor
  · intro h
    have hverdict := bicVerdict_bic value
    rw [h] at hverdict
    cases hverdict with
    | empty none => exact none
  · rintro rfl
    rfl

/-- A text is refused for its institution only if it is a code otherwise, and
the refusal repeats it. -/
theorem bic_eq_notAllowed {barred : String} :
    bic value = fail "bic" (.notAllowed barred)
      ↔ barred = value ∧ IsBusinessCode value ∧ OpensBarred value := by
  constructor
  · intro h
    have hverdict := bicVerdict_bic value
    rw [h] at hverdict
    cases hverdict with
    | barred code opens => exact ⟨rfl, code, opens⟩
  · rintro ⟨rfl, code, opens⟩
    rw [bic_of_rules (bicRules_iff.2 code), if_pos (opensBarred_iff.1 opens)]

/-- A text with something in it is refused for a pattern exactly if it is no
code. -/
theorem bic_eq_pattern :
    (∃ expected, bic value = fail "bic" (.pattern expected))
      ↔ value ≠ "" ∧ ¬IsBusinessCode value := by
  constructor
  · rintro ⟨expected, h⟩
    have hverdict := bicVerdict_bic value
    rw [h] at hverdict
    cases hverdict with
    | pattern some broken => exact ⟨some, broken⟩
  · rintro ⟨some, broken⟩
    exact exists_pattern_of_not_rules some (mt bicRules_iff.1 broken)

/-- Business identifier codes are accepted by their parts, whatever bytes a text
is made of, if they do not open with REVO. An empty text is refused as such, a
code only for what it opens with and by its own text, and every other text for
a pattern. On stored text no look of the check is outside the bytes. -/
theorem bic_exact (value : String) :
    (bic value = .ok () ↔ IsBusinessCode value ∧ ¬OpensBarred value)
      ∧ (bic value = fail "bic" .empty ↔ value = "")
      ∧ (∀ barred, bic value = fail "bic" (.notAllowed barred)
        ↔ barred = value ∧ IsBusinessCode value ∧ OpensBarred value)
      ∧ ((∃ expected, bic value = fail "bic" (.pattern expected))
        ↔ value ≠ "" ∧ ¬IsBusinessCode value)
      ∧ Stored.bic? value = some (bic value) :=
  ⟨bic_eq_ok, bic_eq_empty, fun _ => bic_eq_notAllowed, bic_eq_pattern,
    Stored.bic?_eq value⟩

/-- Eight bytes that are seven characters. -/
example : bic "DEUTDÄF"
    = fail "bic"
      (.pattern "institution, country, location and optional branch code") :=
  rfl

end FiatAccounts.Check

/-
When a sequence of steps succeeds, and what refuses it.

An operation that can be refused is a chain of steps, each of which either goes
on with a value or ends the chain. It succeeds exactly when every step does, so
a success takes the chain apart into the successes of its steps. It is refused
by the first step that is, and what that step says is what the chain says.
-/
import FiatAccounts.Instrument.Bank

namespace FiatAccounts

variable {ε α β : Type}

/-- A chain succeeds if its first step does and so does the rest on what it
gives. -/
theorem bind_eq_ok {x : Except ε α} {f : α → Except ε β} {b : β} :
    (x >>= f) = .ok b ↔ ∃ a, x = .ok a ∧ f a = .ok b := by
  cases x with
  | error e =>
      constructor
      · intro h; cases h
      · rintro ⟨a, h, -⟩; cases h
  | ok a =>
      constructor
      · intro h; exact ⟨a, rfl, h⟩
      · rintro ⟨a', h, hf⟩; cases h; exact hf

/-- A chain is refused by its first step, or by the rest after a success. -/
theorem bind_eq_error {x : Except ε α} {f : α → Except ε β} {e : ε} :
    (x >>= f) = .error e ↔ x = .error e ∨ ∃ a, x = .ok a ∧ f a = .error e := by
  cases x with
  | error e' =>
      constructor
      · intro h
        cases h
        exact .inl rfl
      · rintro (h | ⟨a, h, -⟩)
        · cases h; rfl
        · cases h
  | ok a =>
      constructor
      · intro h
        exact .inr ⟨a, rfl, h⟩
      · rintro (h | ⟨a', h, hf⟩)
        · cases h
        · cases h; exact hf

/-- What is done with a value makes no difference to a refusal. -/
theorem map_eq_error {x : Except ε α} {f : α → β} {e : ε} :
    x.map f = .error e ↔ x = .error e := by
  cases x <;> simp [Except.map]

/-- A success that is carried on was a success before. -/
theorem map_eq_ok {x : Except ε α} {f : α → β} {b : β} :
    x.map f = .ok b ↔ ∃ a, x = .ok a ∧ f a = b := by
  cases x <;> simp [Except.map]

/-- Without a value to go on with, both steps succeed. -/
theorem bind_unit_eq_ok {x : Except ε Unit} {f : Unit → Except ε β} {b : β} :
    (x >>= f) = .ok b ↔ x = .ok () ∧ f () = .ok b := by
  rw [bind_eq_ok]
  exact ⟨fun ⟨(), h⟩ => h, fun h => ⟨(), h⟩⟩

/-- A step for each element succeeds if it does so for every one. -/
theorem forM_eq_ok {xs : List α} {f : α → Except ε Unit} :
    xs.forM f = .ok () ↔ ∀ x ∈ xs, f x = .ok () := by
  induction xs with
  | nil => exact iff_of_true rfl (List.forall_mem_nil _)
  | cons x xs ih =>
      show (f x >>= fun _ => xs.forM f) = _ ↔ _
      rw [bind_unit_eq_ok, ih, List.forall_mem_cons]

/-- A check that is raised to an operation passes as the check does. -/
theorem Check.raise_eq_ok {check : Check} :
    check.raise = .ok () ↔ check = .ok () := by
  cases check with
  | ok _ => exact ⟨fun _ => rfl, fun _ => rfl⟩
  | error fault =>
      constructor
      · intro h; cases h
      · intro h; cases h

/-- A field that has to have one value passes with that value only. -/
theorem Check.equals_eq_ok {field value expected : String} :
    Check.equals field value expected = .ok () ↔ value = expected := by
  unfold Check.equals
  split <;> simp [Check.pass, Check.fail, *]

end FiatAccounts

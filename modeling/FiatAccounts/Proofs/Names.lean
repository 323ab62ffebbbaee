/-
Names on the wire and the values that they name.

A value is looked up under a name in a list of all values. What is found has the
name that was looked for. That a value is found under its own name takes a list
where no other value with that name comes first, so each list has to be gone
through once.
-/
import FiatAccounts.Account.Basic

namespace FiatAccounts

/-- If every value is found under its own name, it is found under no other. -/
theorem find?_name_eq_some {α : Type} {all : List α} {name : α → String}
    (found : ∀ a, all.find? (fun b => name b == name a) = some a)
    {text : String} {a : α} :
    all.find? (fun b => name b == text) = some a ↔ name a = text := by
  constructor
  · intro h
    have hname := List.find?_some h
    exact eq_of_beq hname
  · intro h
    subst h
    exact found a

/-- The kinds of account are found by their names. -/
theorem BankAccountType.ofName?_eq_some {text : String}
    {kind : BankAccountType} :
    ofName? text = some kind ↔ kind.name = text :=
  find?_name_eq_some fun kind => by cases kind <;> rfl

theorem KeyAlgorithm.ofName?_eq_some {text : String}
    {algorithm : KeyAlgorithm} :
    ofName? text = some algorithm ↔ algorithm.name = text :=
  find?_name_eq_some fun algorithm => by cases algorithm <;> rfl

theorem AccountOrigin.ofName?_eq_some {text : String}
    {origin : AccountOrigin} :
    ofName? text = some origin ↔ origin.name = text :=
  find?_name_eq_some fun origin => by cases origin <;> rfl

theorem BankField.ofName?_eq_some {text : String} {field : BankField} :
    ofName? text = some field ↔ field.name = text :=
  find?_name_eq_some fun field => by cases field <;> rfl

/-- No two fields share a name. -/
theorem BankField.name_injective : Function.Injective BankField.name := by
  intro field other h
  have hfield := ofName?_eq_some.2 h
  rw [ofName?_eq_some.2 rfl] at hfield
  exact (Option.some.inj hfield).symm

end FiatAccounts

/-
The full upper-case mapping of Unicode, character by character. One character
may become two or three (`ß` becomes `SS`), and a character without an
upper-case form stays as it is.
-/
import FiatAccounts.Text.UpperTable

namespace FiatAccounts.Text.UpperCase

open UpperTable

/-- Whether a code point belongs to a run. -/
def Run.covers (run : Run) (n : Nat) : Bool :=
  run.first ≤ n && n ≤ run.last && (n - run.first) % run.step == 0

/-- The upper-case form of one character. -/
def upper (c : Char) : List Char :=
  match expansions.lookup c.toNat with
  | some codes => codes.map Char.ofNat
  | none =>
    match runs.find? fun run => Run.covers run c.toNat with
    | some run => [Char.ofNat (c.toNat + run.shift).toNat]
    | none => [c]

end FiatAccounts.Text.UpperCase

/-
The limits under which accounts are exchanged: how long a message may be, how
far the clocks of two peers may differ, and how long a published witness lives.
-/
import FiatAccounts.Error
import FiatAccounts.Time.Millis

namespace FiatAccounts

structure Config where
  /-- The most bytes of a message, in both directions. -/
  maxWireLength : Nat
  /-- How far a peer's clock may be off. -/
  clockTolerance : Millis
  /-- How long a published record lives. -/
  lifetime : Millis
  deriving DecidableEq, Repr

namespace Config

/-- 64 KiB, one day, thirty days. -/
def standard : Config := ⟨65536, 86400000, 2592000000⟩

/-- Why no exchange could succeed under the configuration, if none could. -/
def fault? (c : Config) : Option ConfigFault :=
  if c.maxWireLength = 0 then some .wireLimitZero
  else if c.clockTolerance < 0 then some .toleranceNegative
  else if c.lifetime ≤ 0 then some .lifetimeNotPositive
  else none

def validate (c : Config) : Except AccountError Unit :=
  match c.fault? with
  | some fault => .error (.config fault)
  | none => .ok ()

end Config

end FiatAccounts

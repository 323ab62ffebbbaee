/-
The messages that are signed: a hash and the instant for which it is stated.
-/
import FiatAccounts.Wire.Layout

namespace FiatAccounts.Message

open Wire

structure AgeWitness where
  hash : List UInt8
  date : Millis
  deriving DecidableEq, Repr

def AgeWitness.layout : Layout AgeWitness :=
  (Layout.both (.blob 1) (.millis 2)).reshape
    (fun (hash, date) => ⟨hash, date⟩) (fun m => (m.hash, m.date))

structure AccountTimestamp where
  hash : List UInt8
  date : Millis
  deriving DecidableEq, Repr

def AccountTimestamp.layout : Layout AccountTimestamp :=
  (Layout.both (.blob 1) (.millis 2)).reshape
    (fun (hash, date) => ⟨hash, date⟩) (fun m => (m.hash, m.date))

end FiatAccounts.Message

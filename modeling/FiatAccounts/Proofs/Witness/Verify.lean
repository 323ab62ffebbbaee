/-
When a peer's witness is accepted, and what it is refused for.

Three looks come before the signature: at the clocks, at the date and at the
hash. `AgeWitness.screen` is these three. What fails in it is a rejection and
never reaches the verifier, so that only a witness that passes it can be refused
in the verifier's own words.

The looks at the clocks and at the date are made in 64 bits, and `verify_exact`
says that the same comes out without a limit. Each needs the upper end of the
range to be left out, and for opposite reasons. Under the longest tolerance
every clock is good, however far it is off (`checkClock_of_max`). The last of
all instants is no good as a date, even where it is early enough
(`checkDate_of_max`).
-/
import FiatAccounts.Proofs.Check.Passed
import FiatAccounts.Proofs.Codec.RoundTrip
import FiatAccounts.Witness.AgeWitness
import FiatAccounts.Witness.Timestamp

namespace FiatAccounts

-- ========================================================== signatures

namespace Verifier

variable {verifier : Verifier} {publicKey message signature : List UInt8}
  {algorithm : KeyAlgorithm}

/-- What is made of the verifier's answer: no becomes a rejection, and an answer
that could not be given stays what it is. -/
theorem accept_eq :
    verifier.accept publicKey message signature algorithm =
      match verifier publicKey message signature algorithm with
      | .ok true => .ok ()
      | .ok false => .error (.ageWitness "signature verification failed")
      | .error e => .error e := by
  unfold accept
  cases verifier publicKey message signature algorithm with
  | error e => rfl
  | ok good => cases good <;> rfl

/-- Only a plain yes is taken for one. -/
theorem accept_eq_ok :
    verifier.accept publicKey message signature algorithm = .ok ()
      ↔ verifier publicKey message signature algorithm = .ok true := by
  rw [accept_eq]
  cases verifier publicKey message signature algorithm with
  | error e => simp
  | ok good => cases good <;> simp

/-- Takes a message for its own signature. A key without bytes cannot be
read. -/
def echo : Verifier := fun publicKey message signature _ =>
  if publicKey = [] then .error (.signature "public key is empty")
  else .ok (signature == message)

/-- The verifier that compares says yes to a message that is its own
signature. -/
theorem echo_self (h : publicKey ≠ []) :
    echo publicKey message message algorithm = .ok true := by
  unfold echo
  rw [if_neg h, beq_self_eq_true]

end Verifier

-- ========================================================== timestamps

namespace AccountTimestamp

variable {t : AccountTimestamp} {payload : Payload Instrument}
  {publicKey signature : List UInt8} {algorithm : KeyAlgorithm}
  {verifier : Verifier}

/-- The look at the hash of a timestamp compares it with the payload's. -/
theorem checkHash_eq_ok :
    t.checkHash payload publicKey = .ok ()
      ↔ t.hash = payload.timestampHash publicKey := by
  unfold checkHash
  split <;> simp [*]

/-- A timestamp is accepted for its hash and its signature. -/
theorem verify_eq_ok :
    t.verify payload publicKey signature algorithm verifier = .ok ()
      ↔ t.hash = payload.timestampHash publicKey
        ∧ verifier publicKey t.signingMessage signature algorithm
          = .ok true := by
  unfold verify
  rw [bind_unit_eq_ok, checkHash_eq_ok, Verifier.accept_eq_ok]

end AccountTimestamp

-- ====================================================== before signing

namespace AgeWitness

variable {config : Config} {w : AgeWitness} {payload : Payload Instrument}
  {peerNow now : Millis} {publicKey signature : List UInt8}
  {algorithm : KeyAlgorithm} {verifier : Verifier}

/-- The checks of a witness that come before its signature. -/
def screen (config : Config) (w : AgeWitness) (payload : Payload Instrument)
    (peerNow now : Millis) (publicKey : List UInt8) :
    Except AccountError Unit := do
  checkClock config peerNow now
  w.checkDate now
  w.checkHash payload publicKey

/-- The three looks come first and the signature last. -/
theorem verify_eq_screen :
    w.verify config payload peerNow now publicKey signature algorithm verifier
      = w.screen config payload peerNow now publicKey >>= fun _ =>
        verifier.accept publicKey w.signingMessage signature algorithm := by
  unfold verify screen
  simp only [bind_assoc]

/-- A clock is good if it is off by the tolerance at most. -/
theorem checkClock_eq_ok :
    checkClock config peerNow now = .ok ()
      ↔ drift peerNow now ≤ config.clockTolerance := by
  unfold checkClock
  rw [← Int64.not_lt]
  split <;> simp [*]

/-- A date is good as any date is. Only the refusal is another one. -/
theorem checkDate_eq_ok :
    w.checkDate now = .ok () ↔ Check.date "date" w.date now = .ok () := by
  unfold checkDate
  cases Check.date "date" w.date now with
  | ok _ => exact iff_of_true rfl rfl
  | error fault => exact iff_of_false nofun nofun

/-- The look at the hash of a witness compares it with the payload's. -/
theorem checkHash_eq_ok :
    w.checkHash payload publicKey = .ok ()
      ↔ w.hash = payload.witnessHash publicKey := by
  unfold checkHash
  split <;> simp [*]

/-- A witness passes before the signature for its clocks, its date and its
hash. -/
theorem screen_eq_ok :
    w.screen config payload peerNow now publicKey = .ok ()
      ↔ drift peerNow now ≤ config.clockTolerance
        ∧ Check.date "date" w.date now = .ok ()
        ∧ w.hash = payload.witnessHash publicKey := by
  unfold screen
  rw [bind_unit_eq_ok, bind_unit_eq_ok, checkClock_eq_ok, checkDate_eq_ok,
    checkHash_eq_ok]

/-- A witness is accepted if it passes before the signature and the verifier
says yes. -/
theorem verify_eq_ok :
    w.verify config payload peerNow now publicKey signature algorithm verifier
        = .ok ()
      ↔ w.screen config payload peerNow now publicKey = .ok ()
        ∧ verifier publicKey w.signingMessage signature algorithm
          = .ok true := by
  rw [verify_eq_screen, bind_unit_eq_ok, Verifier.accept_eq_ok]

-- ========================================================== rejections

/-- An outcome that is a rejection if it is no success. -/
def OnlyRejects (outcome : Except AccountError Unit) : Prop :=
  outcome ≠ .ok () → ∃ text, outcome = .error (.ageWitness text)

theorem OnlyRejects.ok : OnlyRejects (.ok ()) :=
  fun h => absurd rfl h

theorem OnlyRejects.rejection (text : String) :
    OnlyRejects (.error (.ageWitness text)) :=
  fun _ => ⟨text, rfl⟩

/-- Two steps in a row do nothing but reject if neither of them does more. -/
theorem OnlyRejects.bind {first next : Except AccountError Unit}
    (hfirst : OnlyRejects first) (hnext : OnlyRejects next) :
    OnlyRejects (first >>= fun _ => next) := by
  intro h
  cases first with
  | ok _ => exact hnext h
  | error e =>
      obtain ⟨text, htext⟩ := hfirst nofun
      cases htext
      exact ⟨text, rfl⟩

/-- Nothing but a rejection comes out before the signature is looked at. -/
theorem screen_onlyRejects :
    OnlyRejects (w.screen config payload peerNow now publicKey) := by
  have hclock : OnlyRejects (checkClock config peerNow now) := by
    unfold checkClock
    split
    · exact .rejection _
    · exact .ok
  have hdate : OnlyRejects (w.checkDate now) := by
    unfold checkDate
    cases Check.date "date" w.date now with
    | ok _ => exact .ok
    | error fault => exact .rejection _
  have hhash : OnlyRejects (w.checkHash payload publicKey) := by
    unfold checkHash
    split
    · exact .ok
    · exact .rejection _
  exact hclock.bind (hdate.bind hhash)

-- =========================================================== exactness

/-- What a witness, the payload and key that it is shown with, and the clocks
have to satisfy before the signature counts. Instants are compared as integers
without a limit. -/
structure Admissible (config : Config) (w : AgeWitness)
    (payload : Payload Instrument) (peerNow now : Millis)
    (publicKey : List UInt8) : Prop where
  clock :
    ((peerNow.toInt - now.toInt).natAbs : Int) ≤ config.clockTolerance.toInt
  launched : 1461715200000 < w.date.toInt
  ahead : w.date.toInt < now.toInt + 7200000
  hash :
    w.hash
      = Hash.Sha256.digest (payload.witnessInput ++ payload.salt ++ publicKey)

/-- Holding results at the ends of the range lets nothing pass that is out of
tolerance or out of the range of dates, if the tolerance is not the longest. -/
theorem Admissible.of_screen
    (tolerance : config.clockTolerance < Int64.maxValue)
    (h : w.screen config payload peerNow now publicKey = .ok ()) :
    w.Admissible config payload peerNow now publicKey := by
  obtain ⟨hclock, hdate, hhash⟩ := screen_eq_ok.1 h
  obtain ⟨launched, ahead⟩ := Check.range_of_date hdate
  exact
    { clock := (Millis.magnitude_minus_le_iff tolerance).1 hclock
      launched, ahead
      hash := hhash }

/-- And it stops nothing that is within both, if the date is not the last
instant. -/
theorem Admissible.screen (dated : w.date < Int64.maxValue)
    (h : w.Admissible config payload peerNow now publicKey) :
    w.screen config payload peerNow now publicKey = .ok () :=
  screen_eq_ok.2
    ⟨Millis.magnitude_minus_le_of_le h.clock,
      Check.date_of_range dated h.launched h.ahead, h.hash⟩

/-- A witness is accepted exactly when it is admissible and the verifier says
yes. One that is not admissible is rejected, and whatever the verifier would
say. If it is admissible, a no of the verifier is a rejection, and why it cannot
answer comes out as it is. -/
theorem verify_exact (config : Config) (w : AgeWitness)
    (payload : Payload Instrument) (peerNow now : Millis)
    (publicKey signature : List UInt8) (algorithm : KeyAlgorithm)
    (verifier : Verifier)
    (tolerance : config.clockTolerance < Int64.maxValue)
    (dated : w.date < Int64.maxValue) :
    (w.verify config payload peerNow now publicKey signature algorithm verifier
          = .ok ()
        ↔ w.Admissible config payload peerNow now publicKey
          ∧ verifier publicKey w.signingMessage signature algorithm = .ok true)
      ∧ (¬w.Admissible config payload peerNow now publicKey →
        ∃ text, ∀ signature algorithm verifier,
          w.verify config payload peerNow now publicKey signature algorithm
              verifier
            = .error (.ageWitness text))
      ∧ (w.Admissible config payload peerNow now publicKey →
        (verifier publicKey w.signingMessage signature algorithm = .ok false →
          ∃ text,
            w.verify config payload peerNow now publicKey signature algorithm
                verifier
              = .error (.ageWitness text))
        ∧ ∀ e,
          verifier publicKey w.signingMessage signature algorithm = .error e →
            w.verify config payload peerNow now publicKey signature algorithm
                verifier
              = .error e) := by
  refine ⟨?_, ?_, ?_⟩
  · rw [verify_eq_ok]
    -- the tolerance is bounded for the way there, the date for the way back
    exact and_congr_left' ⟨.of_screen tolerance, fun h => h.screen dated⟩
  · intro h
    obtain ⟨text, htext⟩ :=
      screen_onlyRejects fun hok => h (.of_screen tolerance hok)
    -- the rejection is settled before the signature is looked at
    refine ⟨text, fun signature algorithm verifier => ?_⟩
    rw [verify_eq_screen, htext]
    rfl
  · intro h
    have hverify : w.verify config payload peerNow now publicKey signature
        algorithm verifier
          = verifier.accept publicKey w.signingMessage signature algorithm := by
      rw [verify_eq_screen, h.screen dated]
      rfl
    rw [hverify, Verifier.accept_eq]
    refine ⟨?_, ?_⟩
    · intro hno
      rw [hno]
      exact ⟨_, rfl⟩
    · intro e he
      rw [he]

/-- The witness of `Payload.sample` under a key, dated a millisecond before the
last instant. -/
def latest (publicKey : List UInt8) : AgeWitness :=
  ⟨Payload.sample.witnessHash publicKey, Int64.maxValue - 1⟩

/-- The witness of the last instant but one is good wherever the clocks are
within a day of the end. -/
theorem latest_admissible {publicKey : List UInt8} {peerNow : Millis}
    (h : ((peerNow.toInt - Int64.maxValue.toInt).natAbs : Int) ≤ 86400000) :
    (latest publicKey).Admissible .standard .sample peerNow Int64.maxValue
      publicKey where
  clock := h
  launched := (by decide : (1461715200000 : Int) < (Int64.maxValue - 1).toInt)
  ahead :=
    (by decide : (Int64.maxValue - 1).toInt < Int64.maxValue.toInt + 7200000)
  hash := rfl

/-- The same witness accepted, rejected for a clock at the other end of the
range, and refused in the verifier's own words. -/
theorem verify_exact_latest :
    (latest [4, 8]).verify .standard .sample (Int64.maxValue - 86400000)
        Int64.maxValue [4, 8] (latest [4, 8]).signingMessage .ed25519 .echo
      = .ok ()
    ∧ (∃ text,
      (latest [4, 8]).verify .standard .sample Int64.minValue Int64.maxValue
          [4, 8] (latest [4, 8]).signingMessage .ed25519 .echo
        = .error (.ageWitness text))
    ∧ (latest []).verify .standard .sample Int64.maxValue Int64.maxValue [] []
        .ed25519 .echo
      = .error (.signature "public key is empty") := by
  have hexact (publicKey signature : List UInt8) (peerNow : Millis) :=
    verify_exact .standard (latest publicKey) .sample peerNow Int64.maxValue
      publicKey signature .ed25519 .echo (by decide)
      (by decide : Int64.maxValue - 1 < Int64.maxValue)
  refine ⟨?_, ?_, ?_⟩
  · refine (hexact _ _ _).1.2 ⟨latest_admissible (by decide), ?_⟩
    exact Verifier.echo_self (by decide)
  · obtain ⟨text, htext⟩ := (hexact [4, 8] [] Int64.minValue).2.1 fun h =>
      absurd h.clock (by decide)
    exact ⟨text, htext _ _ _⟩
  · exact ((hexact _ _ _).2.2 (latest_admissible (by decide))).2 _ rfl

-- ============================================== the ends of the range

/-- Under the longest tolerance no clock is off. -/
theorem checkClock_of_max (h : config.clockTolerance = Int64.maxValue) :
    checkClock config peerNow now = .ok () := by
  rw [checkClock_eq_ok, h, Int64.le_iff_toInt_le]
  exact Int64.toInt_le _

/-- The last of all instants is no date for a witness. -/
theorem checkDate_of_max (h : w.date = Int64.maxValue) :
    w.checkDate now ≠ .ok () := by
  rw [ne_eq, checkDate_eq_ok, Check.date_eq_ok, h]
  rintro ⟨-, hahead⟩
  have hheld := Int64.toInt_le (Millis.plus now Check.twoHours)
  rw [Int64.lt_iff_toInt_lt] at hahead
  omega

end AgeWitness

end FiatAccounts

/-
The hierarchy of accounts is a record times a payload, and no more.

An account is made of five values and shows each of them again, and an account
that shows five values is the one that is made of them. What kind of account it
is follows from the payload. So it makes no difference on which side of the
hierarchy one climbs: the account of a leaf is put in its place
(`Leaf.account`), or the leaf's payload is, and the account is made around it
(`Leaf.account_eq_ofRecord`).
-/
import FiatAccounts.Account.Leaf
import FiatAccounts.Proofs.Account.Path

namespace FiatAccounts

-- ============================================================== leaves

namespace Leaf

/-- The two lists of places agree. -/
theorem account_eq_ofRecord (leaf : Leaf) (a : Account leaf.Fields) :
    leaf.account a = .ofRecord (a.map leaf.instrument) := by
  cases leaf <;> rfl

/-- The instrument of a leaf settles on the rail that the leaf stands for. -/
theorem rail_instrument (leaf : Leaf) (d : leaf.Fields) :
    (leaf.instrument d).rail = leaf.rail := by
  cases leaf <;> rfl

/-- An account of a leaf is on the leaf's rail, because it holds the leaf's
instrument. -/
theorem rail_account (leaf : Leaf) (a : Account leaf.Fields) :
    (leaf.account a).rail = leaf.rail := by
  have hrecord : (leaf.account a).record = a.map leaf.instrument := by
    rw [account_eq_ofRecord, PaymentAccount.record_ofRecord]
  unfold PaymentAccount.rail PaymentAccount.payload
  rw [hrecord]
  exact leaf.rail_instrument _

end Leaf

-- ============================================================ accounts

/-- An account made of five values has these values, the rail of its payload and
the place of its instrument; every account is made of the five values that it
shows; and the account of a leaf, with a key or without, is the one that is made
around the leaf's payload. -/
theorem account_is_record_around_payload :
    (∀ id creationDate name payload signing,
      let a := PaymentAccount.ofPayload id creationDate name payload signing
      a.id = id ∧ a.creationDate = creationDate ∧ a.name = name
        ∧ a.payload = payload ∧ a.signing = signing
        ∧ a.rail = payload.rail ∧ a.path = payload.instrument.path)
      ∧ (∀ a : PaymentAccount,
        .ofPayload a.id a.creationDate a.name a.payload a.signing = a)
      ∧ ∀ (leaf : Leaf) id creationDate name (p : Payload leaf.Fields),
        leaf.account (.new id creationDate name p)
            = .ofPayload id creationDate name (leaf.payload p) none
          ∧ (∀ signing,
            leaf.account ((Account.new id creationDate name p).withSigning
                signing)
              = .ofPayload id creationDate name (leaf.payload p)
                (some signing))
          ∧ (leaf.account (.new id creationDate name p)).rail = leaf.rail
          ∧ (leaf.payload p).rail = leaf.rail := by
  refine ⟨?_, fun a => a.ofRecord_record, ?_⟩
  · intro id creationDate name payload signing a
    have hrecord : a.record = { id, creationDate, name, payload, signing } :=
      PaymentAccount.record_eq_of_ofPayload rfl
    have hpayload : a.payload = payload := congrArg Account.payload hrecord
    refine ⟨congrArg Account.id hrecord,
      congrArg Account.creationDate hrecord, congrArg Account.name hrecord,
      hpayload, congrArg Account.signing hrecord,
      congrArg Payload.rail hpayload, ?_⟩
    rw [← a.path_payload, hpayload]
  · intro leaf id creationDate name p
    exact ⟨leaf.account_eq_ofRecord _, fun _ => leaf.account_eq_ofRecord _,
      leaf.rail_account _, leaf.rail_instrument _⟩

end FiatAccounts

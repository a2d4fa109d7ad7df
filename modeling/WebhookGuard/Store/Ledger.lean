/-
  Ledgers. A ledger holds an expiry for each claimed nonce, on a clock of any precision. A claim
  enters a nonce that has no live record and leaves the ledger alone otherwise; a purge drops the
  records that are no longer live.
-/
namespace WebhookGuard

/-- Expiries by nonce. -/
structure Ledger (τ : Type) where
  records : List (String × τ)
deriving DecidableEq, Repr

namespace Ledger

variable {τ : Type}

/-- The ledger without records. -/
def empty : Ledger τ := ⟨[]⟩

/-- The number of records, live or not. -/
def size (l : Ledger τ) : Nat := l.records.length

/-- The expiry on record for a nonce. -/
def get? (l : Ledger τ) (nonce : String) : Option τ :=
  l.records.lookup nonce

/-- Records an expiry for a nonce in place of any earlier one. -/
def put (l : Ledger τ) (nonce : String) (expiry : τ) : Ledger τ :=
  ⟨(nonce, expiry) :: l.records.filter fun record => record.1 != nonce⟩

variable [LT τ] [DecidableRel (LT.lt : τ → τ → Prop)]

/-- Whether a nonce has a record that expires later than `now`. -/
def isLive (l : Ledger τ) (nonce : String) (now : τ) : Bool :=
  match l.get? nonce with
  | some expiry => decide (now < expiry)
  | none => false

/-- Enters a nonce unless it is live; says whether it did. -/
def claim (l : Ledger τ) (nonce : String) (expiry now : τ) : Ledger τ × Bool :=
  if l.isLive nonce now then (l, false) else (l.put nonce expiry, true)

/-- The records that expire later than `now`. -/
def live (l : Ledger τ) (now : τ) : Ledger τ :=
  ⟨l.records.filter fun record => decide (now < record.2)⟩

/-- Drops the records that are not live; says how many it dropped. -/
def purge (l : Ledger τ) (now : τ) : Ledger τ × Nat :=
  (l.live now, l.size - (l.live now).size)

end Ledger

end WebhookGuard

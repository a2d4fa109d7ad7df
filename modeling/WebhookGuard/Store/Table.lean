import WebhookGuard.Store.Memory

/-
  The store of several processes on one host: a table in a file. The table keeps expiries in whole
  milliseconds, rounded down, and compares them with the clock rounded likewise. Whether a claim
  is void is still judged to the nanosecond.
-/
namespace WebhookGuard

/-- A table of nonces with their expiries in milliseconds. -/
structure TableStore where
  ledger : Ledger Int
deriving DecidableEq, Repr

namespace TableStore

/-- The table without rows. -/
def empty : TableStore := ⟨.empty⟩

/-- Inserts a row, or takes over one that has expired; a live row stays as it is. -/
def claim (s : TableStore) (c : Claim) : TableStore × Bool :=
  if c.isVoid then (s, false)
  else
    let (ledger, taken) := s.ledger.claim c.nonce c.expiresAt.millis c.now.millis
    (⟨ledger⟩, taken)

/-- Deletes the rows that have expired at an instant, and counts them. -/
def purge (s : TableStore) (now : Instant) : TableStore × Nat :=
  let (ledger, count) := s.ledger.purge now.millis
  (⟨ledger⟩, count)

instance : NonceStore TableStore where
  claim s c :=
    let (s, taken) := s.claim c
    (s, { answer := .ok taken })
  purge s now :=
    let (s, count) := s.purge now
    (s, .ok count)

end TableStore

end WebhookGuard

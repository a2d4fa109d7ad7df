import WebhookGuard.Store.Basic
import WebhookGuard.Store.Ledger
import WebhookGuard.Text.Blank

/-
  The store of a single process. It keeps expiries as they are, to the nanosecond. Blank nonces
  and claims that have expired before they begin are refused.
-/
namespace WebhookGuard

/-- Claims that no store enters: the nonce is blank, or the expiry is not later than the claim. -/
def Claim.isVoid (c : Claim) : Bool :=
  Text.isBlank c.nonce || decide (c.expiresAt ≤ c.now)

/-- A store that lives as long as the process does. -/
structure MemoryStore where
  ledger : Ledger Instant
deriving DecidableEq, Repr

namespace MemoryStore

/-- The store without records. -/
def empty : MemoryStore := ⟨.empty⟩

/-- Takes a nonce unless the claim is void or the nonce is claimed at that time. -/
def claim (s : MemoryStore) (c : Claim) : MemoryStore × Bool :=
  if c.isVoid then (s, false)
  else
    let (ledger, taken) := s.ledger.claim c.nonce c.expiresAt c.now
    (⟨ledger⟩, taken)

/-- Whether a nonce is claimed at an instant. -/
def isClaimed (s : MemoryStore) (nonce : String) (now : Instant) : Bool :=
  s.ledger.isLive nonce now

/-- Removes the records that have expired at an instant, and counts them. -/
def purge (s : MemoryStore) (now : Instant) : MemoryStore × Nat :=
  let (ledger, count) := s.ledger.purge now
  (⟨ledger⟩, count)

/-- The number of records, expired or not. -/
def size (s : MemoryStore) : Nat := s.ledger.size

instance : NonceStore MemoryStore where
  claim s c :=
    let (s, taken) := s.claim c
    (s, { answer := .ok taken })
  purge s now :=
    let (s, count) := s.purge now
    (s, .ok count)

end MemoryStore

end WebhookGuard

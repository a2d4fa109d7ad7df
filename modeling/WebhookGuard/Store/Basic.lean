import WebhookGuard.Event
import WebhookGuard.Time.Instant
import WebhookGuard.Time.Timer

/-
  Nonce stores. A nonce is available when it has no record or its record has expired; once claimed
  it stays unavailable until the expiry of that claim, whatever expiry a later claim asks for. A
  claim takes effect in one step, also when the caller has stopped waiting for the answer.
-/
namespace WebhookGuard

/-- The request to take a nonce until `expiresAt`, judged at `now`. -/
structure Claim where
  nonce : String
  expiresAt : Instant
  now : Instant
deriving DecidableEq, Repr

/-- How a store answers a claim: whether it took the nonce, how long it needed, what it reported. -/
structure Reply where
  answer : Except StoreError Bool
  delay : Duration := .zero
  events : List Event := []
deriving Repr

namespace Reply

/-- Whether the time for an answer is up before it comes. An answer in the very millisecond in
which the time is up still counts. -/
def isLate (reply : Reply) (limit : Duration) : Bool :=
  decide (Timer.goesOff limit < Timer.wait reply.delay)

/-- What is known of the answer when it has come or the time for it is up. -/
def within (reply : Reply) (limit : Duration) : Except StoreError Bool :=
  if reply.isLate limit then .error (.timedOut limit) else reply.answer

/-- How long it takes until the answer has come or the time for it is up. -/
def waited (reply : Reply) (limit : Duration) : Duration :=
  if reply.isLate limit then Timer.goesOff limit else Timer.wait reply.delay

end Reply

/-- Stores of claimed nonces. -/
class NonceStore (σ : Type) where
  /-- Claims a nonce: the store once the claim has run its course, and the reply. -/
  claim : σ → Claim → σ × Reply
  /-- Removes the records that have expired at an instant, and counts them. -/
  purge : σ → Instant → σ × Except StoreError Nat

end WebhookGuard

import WebhookGuard.Store.Basic

/-
  Stores without memory. They stand in for a store when a verifier is tried out: one is always
  down, one answers the same after a while, one lets everything pass. None of them has records
  that a purge could remove.
-/
namespace WebhookGuard

/-- A store that is down. -/
structure BrokenStore where
  cause : String
deriving DecidableEq, Repr

instance : NonceStore BrokenStore where
  claim s _ := (s, { answer := .error (.unavailable s.cause) })
  purge s _ := (s, .error (.unavailable s.cause))

/-- A store that answers every claim the same after some time. -/
structure SlowStore where
  delay : Duration
  answer : Bool
deriving DecidableEq, Repr

instance : NonceStore SlowStore where
  claim s _ := (s, { answer := .ok s.answer, delay := s.delay })
  purge s _ := (s, .ok 0)

/-- A store that takes every nonce, however often. -/
structure OpenStore where
deriving DecidableEq, Repr

instance : NonceStore OpenStore where
  claim s _ := (s, { answer := .ok true })
  purge s _ := (s, .ok 0)

end WebhookGuard

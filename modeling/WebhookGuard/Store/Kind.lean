import WebhookGuard.Store.Remote
import WebhookGuard.Store.Stateless
import WebhookGuard.Store.Table

/-
  A store of any kind, for programs that choose the kind when they start.
-/
namespace WebhookGuard

/-- A store of one of the kinds. -/
inductive Store where
  | memory (store : MemoryStore)
  | table (store : TableStore)
  | remote (store : RemoteStore)
  | broken (store : BrokenStore)
  | slow (store : SlowStore)
  | accepting (store : OpenStore)
deriving DecidableEq, Repr

namespace Store

/-- Claims a nonce in a store of any kind. -/
def claim (s : Store) (c : Claim) : Store × Reply :=
  match s with
  | memory s => let (s, reply) := NonceStore.claim s c; (memory s, reply)
  | table s => let (s, reply) := NonceStore.claim s c; (table s, reply)
  | remote s => let (s, reply) := NonceStore.claim s c; (remote s, reply)
  | broken s => let (s, reply) := NonceStore.claim s c; (broken s, reply)
  | slow s => let (s, reply) := NonceStore.claim s c; (slow s, reply)
  | accepting s => let (s, reply) := NonceStore.claim s c; (accepting s, reply)

/-- Purges a store of any kind. -/
def purge (s : Store) (now : Instant) : Store × Except StoreError Nat :=
  match s with
  | memory s => let (s, count) := NonceStore.purge s now; (memory s, count)
  | table s => let (s, count) := NonceStore.purge s now; (table s, count)
  | remote s => let (s, count) := NonceStore.purge s now; (remote s, count)
  | broken s => let (s, count) := NonceStore.purge s now; (broken s, count)
  | slow s => let (s, count) := NonceStore.purge s now; (slow s, count)
  | accepting s => let (s, count) := NonceStore.purge s now; (accepting s, count)

instance : NonceStore Store where
  claim := claim
  purge := purge

/-- A store says nothing of its own, but for one that has just opened its connection. -/
theorem claim_events (s : Store) (c : Claim) :
    (NonceStore.claim s c).2.events = [] ∨
      (∃ remote, s = .remote remote) ∧ (NonceStore.claim s c).2.events = [.connectionOpened] := by
  cases s with
  | memory s => exact Or.inl rfl
  | table s => exact Or.inl rfl
  | broken s => exact Or.inl rfl
  | slow s => exact Or.inl rfl
  | accepting s => exact Or.inl rfl
  | remote s =>
    show (s.claim c).2.events = [] ∨ _ ∧ (s.claim c).2.events = _
    unfold RemoteStore.claim
    split
    · exact Or.inl rfl
    · split
      · exact Or.inl rfl
      · split
        · exact Or.inl rfl
        · split
          · exact Or.inr ⟨⟨s, rfl⟩, rfl⟩
          · exact Or.inl rfl

/-- The store of a single process, if it is one. -/
def memory? : Store → Option MemoryStore
  | memory s => some s
  | _ => none

end Store

end WebhookGuard

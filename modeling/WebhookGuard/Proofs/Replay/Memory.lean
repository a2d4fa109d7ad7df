import WebhookGuard.Proofs.Replay.Run
import WebhookGuard.Proofs.Verifier.Signed

/-
  Replays in a process. Verifiers that allow the same skew and the same age share the store of a
  process. Of all calls with one message, which are those that read the same timestamp and the same
  nonce, at most one is accepted. Clock readings need not grow, other messages may use the nonce in
  between, and the calendar may end before a claim would.

  Two arguments meet here. The nonce of an accepted call is held for as long as its expiry lies
  ahead (`accepted_once_of_outlasts`), and a message is never fresh beyond the expiry of a claim
  that was made for it (`secs_lt_expiry`). Where the expiry is the end of the calendar, it lies ahead of
  every call that can be accepted at all.
-/
namespace WebhookGuard

open LawfulStore Run

/-- Whatever becomes of a store that belongs to one process, no message is accepted twice. -/
theorem MemoryStore.accepted_once (s : MemoryStore) {acts : List Action} {skew age : Duration}
    (hw : SameWindow skew age acts) (ho : Orderly acts) :
    (calls s acts).Pairwise fun a b => a.SameMessage b →
      (∀ sent, a.sentAt? = some sent → sent.Ordinary) →
      ¬ (a.verdict = .accepted ∧ b.verdict = .accepted) := by
  refine (accepted_once_of_outlasts s (fun _ _ => trivial) ho hw).imp ?_
  intro a b honce hsame hord
  refine honce hsame fun sent hsent hfresh hnow => ?_
  show b.delivery.now < a.verifier.expiry a.delivery.now sent
  rcases Verifier.secs_lt_expiry (hord sent hsent) hfresh a.delivery.now with he | hlt
  · rw [he]
    exact hnow
  · exact Instant.lt_of_secs_lt hlt

/-- A message five minutes ahead of the clock is accepted. Ten minutes later it is all but stale
and the store has just been purged, but it is found to be a replay. -/
theorem MemoryStore.accepted_once_of_future :
    ∃ a b, calls MemoryStore.empty
        [ .verify .sample (.sample ⟨1757962390, 0⟩),
          .purge ⟨1757962990, 0⟩,
          .verify .sample (.sample ⟨1757962990, 0⟩) ] = [a, b] ∧
      a.verdict = .accepted ∧ b.verdict = .rejected .replay := by
  have hcalls : ∀ v d d' now,
      calls MemoryStore.empty [.verify v d, .purge now, .verify v d'] =
        [⟨v, d, (v.verify MemoryStore.empty d).verdict⟩,
          ⟨v, d', (v.verify (NonceStore.purge (v.verify MemoryStore.empty d).store now).1
            d').verdict⟩] := fun _ _ _ _ => rfl
  have hauth := Verifier.authentic_sample ⟨1757962390, 0⟩
  have hauth' := Verifier.authentic_sample ⟨1757962990, 0⟩
  have hfirst := hauth.verify_accepted (s := MemoryStore.empty) (by decide) (by decide) rfl
  have hw : SameWindow (.ofSecs 300) (.ofSecs 600)
      [.verify .sample (.sample ⟨1757962390, 0⟩), .purge ⟨1757962990, 0⟩,
        .verify .sample (.sample ⟨1757962990, 0⟩)] := by decide
  have hpair := MemoryStore.accepted_once MemoryStore.empty hw (by decide)
  rw [hcalls] at hpair ⊢
  refine ⟨_, _, rfl, (Call.verdict_mk _ _ _).trans hfirst, (Call.verdict_mk _ _ _).trans ?_⟩
  refine Verifier.verdict_of_not_accepted (hauth'.check_eq (by decide)) fun h => ?_
  refine (List.pairwise_cons.mp hpair).1 _ List.mem_cons_self
    ⟨_, _, hauth.timestamp_eq, hauth'.timestamp_eq, hauth.nonce_eq, hauth'.nonce_eq⟩ ?_
    ⟨(Call.verdict_mk _ _ _).trans hfirst, (Call.verdict_mk _ _ _).trans h⟩
  intro sent hsent
  obtain rfl := Option.some.inj (hauth.sentAt?_eq.symm.trans hsent)
  decide

end WebhookGuard

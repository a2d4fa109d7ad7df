import WebhookGuard.Proofs.Replay.Run
import WebhookGuard.Proofs.Verifier.Signed

/-
  Replays over a file. Any number of handles are open on one table, and handles come and go; the
  rows stay. What is asked through the handles is a run over the table (`history_eq`), so no message
  is accepted twice here either.

  The table knows expiries and clock readings by their milliseconds only, each rounded down by
  itself. Of two instants in different seconds it can still tell which is the earlier, also before
  the epoch, and a claim lasts into a later second than its message is fresh. Unlike the store of a
  process, the table cannot tell the end of the calendar from the millisecond before it, so here the
  sums behind an expiry have to be within the calendar.
-/
namespace WebhookGuard

open LawfulStore Run

/-- A table in a file, and the handles that are open on it. -/
structure SharedTable where
  table : TableStore
  handles : List Nat := []

namespace SharedTable

inductive Step where
  /-- Opens the file. A table that is there stays as it is. -/
  | openFile (handle : Nat)
  /-- Lets go of a handle, which may be the last. -/
  | drop (handle : Nat)
  | verify (handle : Nat) (verifier : Verifier) (delivery : Delivery)
  | purge (handle : Nat) (now : Instant)

/-- What a step asks of the table. -/
def Step.action? : Step → Option Action
  | .verify _ v d => some (.verify v d)
  | .purge _ now => some (.purge now)
  | .openFile _ | .drop _ => none

/-- The handle that a step goes through. -/
def Step.handle : Step → Nat
  | .openFile h | .drop h | .verify h _ _ | .purge h _ => h

/-- What is asked of the table through a handle that is open. -/
def action? (s : SharedTable) (step : Step) : Option Action :=
  if step.handle ∈ s.handles then step.action? else none

/-- The handles after a step. -/
def handlesAfter (s : SharedTable) : Step → List Nat
  | .openFile h => h :: s.handles
  | .drop h => s.handles.filter (· ≠ h)
  | .verify .. | .purge .. => s.handles

def step (s : SharedTable) (step : Step) : SharedTable where
  table := storeAfter s.table (s.action? step).toList
  handles := s.handlesAfter step

/-- The calls of some steps, in order. -/
def history (s : SharedTable) : List Step → List Call
  | [] => []
  | step :: steps => calls s.table (s.action? step).toList ++ history (s.step step) steps

/-- What some steps ask of the table. -/
def performed (s : SharedTable) : List Step → List Action
  | [] => []
  | step :: steps => (s.action? step).toList ++ performed (s.step step) steps

theorem action?_sublist (s : SharedTable) (step : Step) :
    (s.action? step).toList.Sublist step.action?.toList := by
  unfold action?
  split
  · exact List.Sublist.refl _
  · exact List.nil_sublist _

/-- Only what is asked through a handle is performed, in the order in which it is asked. -/
theorem performed_sublist (s : SharedTable) (steps : List Step) :
    (s.performed steps).Sublist (steps.filterMap Step.action?) := by
  induction steps generalizing s with
  | nil => exact List.Sublist.refl _
  | cons step steps ih =>
    have h := (s.action?_sublist step).append (ih (s.step step))
    cases ha : step.action? with
    | none =>
      rw [ha] at h
      rw [List.filterMap_cons_none ha]
      exact h
    | some act =>
      rw [ha] at h
      rw [List.filterMap_cons_some ha]
      exact h

/-- Handles matter only in that steps without them are not performed. -/
theorem history_eq (s : SharedTable) (steps : List Step) :
    s.history steps = calls s.table (s.performed steps) := by
  induction steps generalizing s with
  | nil => rfl
  | cons step steps ih =>
    show calls s.table (s.action? step).toList ++ (s.step step).history steps = _
    rw [ih]
    exact (calls_append s.table _ _).symm

/-- Whoever opens the file and however often, no message is accepted twice over its table. -/
theorem accepted_at_most_once (s : SharedTable) {steps : List Step} {skew age : Duration}
    (hr : ∀ act ∈ steps.filterMap Step.action?, act.now.Ordinary)
    (ho : Orderly (steps.filterMap Step.action?))
    (hw : SameWindow skew age (steps.filterMap Step.action?)) :
    (s.history steps).Pairwise fun a b => a.SameMessage b →
      (∀ sent, a.sentAt? = some sent →
        sent.Ordinary ∧ a.verifier.InCalendar a.delivery.now sent) →
      ¬ (a.verdict = .accepted ∧ b.verdict = .accepted) := by
  have hsub := s.performed_sublist steps
  have hr' : ∀ act ∈ s.performed steps, act.now.Ordinary := fun act h => hr act (hsub.subset h)
  have ho' : Orderly (s.performed steps) := List.Pairwise.sublist hsub ho
  have hw' : SameWindow skew age (s.performed steps) := fun act h => hw act (hsub.subset h)
  rw [history_eq]
  refine (accepted_once_of_outlasts s.table hr' ho' hw').imp_of_mem ?_
  intro a b _ hb honce hsame hcal
  refine honce hsame fun sent hsent hfresh _ => ?_
  obtain ⟨hsentord, hcalendar⟩ := hcal sent hsent
  have hnow : b.delivery.now.Ordinary := hr' _ (verify_mem_of_mem_calls hb)
  show b.delivery.now.millis < (a.verifier.expiry a.delivery.now sent).millis
  exact Instant.millis_lt_millis hnow
    (Verifier.secs_lt_expiry_of_inCalendar hsentord hfresh hcalendar)

/-- A message is accepted through a handle that is dropped thereafter. Through the next handle it
is found to be a replay, although the table was purged in the last second of its being fresh. -/
theorem accepted_at_most_once_of_reopened :
    ∃ a b, (SharedTable.mk TableStore.empty []).history
        [ .openFile 1,
          .verify 1 .sample (.sample ⟨1757962690, 0⟩),
          .drop 1,
          .openFile 2,
          .purge 2 ⟨1757962989, 999999999⟩,
          .verify 1 .sample (.sample ⟨1757962990, 0⟩),
          .verify 2 .sample (.sample ⟨1757962990, 0⟩) ] = [a, b] ∧
      a.verdict = .accepted ∧ b.verdict = .rejected .replay := by
  have hhistory : ∀ v d d' now,
      (SharedTable.mk TableStore.empty []).history [.openFile 1, .verify 1 v d, .drop 1,
        .openFile 2, .purge 2 now, .verify 1 v d', .verify 2 v d'] =
        [⟨v, d, (v.verify TableStore.empty d).verdict⟩,
          ⟨v, d', (v.verify (NonceStore.purge (v.verify TableStore.empty d).store now).1
            d').verdict⟩] := fun _ _ _ _ => rfl
  have hauth := Verifier.authentic_sample ⟨1757962690, 0⟩
  have hauth' := Verifier.authentic_sample ⟨1757962990, 0⟩
  have hfirst := hauth.verify_accepted (s := TableStore.empty) (by decide) (by decide) rfl
  have hw : SameWindow (.ofSecs 300) (.ofSecs 600) (List.filterMap Step.action?
      [.openFile 1, .verify 1 .sample (.sample ⟨1757962690, 0⟩), .drop 1, .openFile 2,
        .purge 2 ⟨1757962989, 999999999⟩, .verify 1 .sample (.sample ⟨1757962990, 0⟩),
        .verify 2 .sample (.sample ⟨1757962990, 0⟩)]) := by decide
  have honce := accepted_at_most_once ⟨TableStore.empty, []⟩ (by decide) (by decide) hw
  rw [hhistory] at honce ⊢
  refine ⟨_, _, rfl, (Call.verdict_mk _ _ _).trans hfirst, (Call.verdict_mk _ _ _).trans ?_⟩
  refine Verifier.verdict_of_not_accepted (hauth'.check_eq (by decide)) fun h => ?_
  refine (List.pairwise_cons.mp honce).1 _ List.mem_cons_self
    ⟨_, _, hauth.timestamp_eq, hauth'.timestamp_eq, hauth.nonce_eq, hauth'.nonce_eq⟩ ?_
    ⟨(Call.verdict_mk _ _ _).trans hfirst, (Call.verdict_mk _ _ _).trans h⟩
  intro sent hsent
  obtain rfl := Option.some.inj (hauth.sentAt?_eq.symm.trans hsent)
  decide

end SharedTable

end WebhookGuard

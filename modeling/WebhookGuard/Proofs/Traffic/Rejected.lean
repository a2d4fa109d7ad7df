import WebhookGuard.Proofs.Verifier.Signed

/-
  What rejected deliveries leave behind. Anybody can send deliveries, so whatever a rejected one did
  to the store could be turned against the senders of others. Over a store that is a ledger it does
  nothing: strike any rejected calls out of a history, and the same steps are answered as before and
  lead to the same store (`rejectedUnmissed`). A call that fails a check does not even ask the store,
  of whatever kind it is: one that records what it is asked, and is otherwise like it
  (`verify_recorded`), has nothing to record (`store_recorded_of_failed`).
-/
namespace WebhookGuard

open LawfulStore

/-! ## Stores that are nothing but their ledger -/

theorem MemoryStore.ledger_injective :
    Function.Injective (LawfulStore.ledger : MemoryStore → Ledger Instant) :=
  fun ⟨_⟩ ⟨_⟩ h => congrArg MemoryStore.mk h

theorem TableStore.ledger_injective :
    Function.Injective (LawfulStore.ledger : TableStore → Ledger Int) :=
  fun ⟨_⟩ ⟨_⟩ h => congrArg TableStore.mk h

/-- Whatever is not accepted leaves the records as they are. -/
theorem Verifier.ledger_verify_of_not_accepted {σ τ : Type} [NonceStore σ] [LE τ] [LT τ]
    [DecidableRel (LT.lt : τ → τ → Prop)] [LawfulStore σ τ] {s : σ} {v : Verifier} {d : Delivery}
    (h : (v.verify s d).verdict ≠ .accepted) : ledger (v.verify s d).store = ledger s := by
  cases hcheck : v.check d with
  | error refusal => rw [(verify_of_refused s hcheck).2]
  | ok c =>
    have ht : takes s c = false := by
      rw [verdict_of_check s hcheck] at h
      by_contra ht
      exact h (if_pos (by simpa using ht))
    rw [store_of_check s hcheck, ledger_claim_of_not_takes ht]

namespace Traffic

/-! ## Histories -/

/-- What is asked for at a store, by verifiers or directly. -/
inductive Step where
  | verify (verifier : Verifier) (delivery : Delivery)
  | claim (claim : Claim)
  | purge (now : Instant)

/-- What comes of a step. -/
inductive Answer where
  | verdict (verdict : Verdict)
  | claimed (reply : Reply)
  | purged (count : Except StoreError Nat)

/-- A step that was taken, and its answer. -/
structure Entry where
  step : Step
  answer : Answer

/-- A delivery was rejected, for whatever reason. -/
def Entry.IsRejected (e : Entry) : Prop :=
  ∃ reason, e.answer = .verdict (.rejected reason)

/-- Takes a step. -/
def perform {σ : Type} [NonceStore σ] (s : σ) : Step → σ × Answer
  | .verify v d => ((v.verify s d).store, .verdict (v.verify s d).verdict)
  | .claim c => ((NonceStore.claim s c).1, .claimed (NonceStore.claim s c).2)
  | .purge now => ((NonceStore.purge s now).1, .purged (NonceStore.purge s now).2)

/-- The store after some steps. -/
def storeAfter {σ : Type} [NonceStore σ] (s : σ) : List Step → σ
  | [] => s
  | step :: steps => storeAfter (perform s step).1 steps

/-- Some steps with their answers, in order. -/
def history {σ : Type} [NonceStore σ] (s : σ) : List Step → List Entry
  | [] => []
  | step :: steps => ⟨step, (perform s step).2⟩ :: history (perform s step).1 steps

/-- The second history is the first with any number of rejected deliveries struck out. -/
inductive Thinned : List Entry → List Entry → Prop where
  | nil : Thinned [] []
  | keep (e : Entry) {entries kept : List Entry} (h : Thinned entries kept) :
      Thinned (e :: entries) (e :: kept)
  | strike {e : Entry} (he : e.IsRejected) {entries kept : List Entry} (h : Thinned entries kept) :
      Thinned (e :: entries) kept

/-- Struck from any history over such stores, rejected deliveries are not missed: the other steps
get the answers they got and lead to the store they led to. -/
def RejectedUnmissed (σ : Type) [NonceStore σ] : Prop :=
  ∀ (s : σ) (steps : List Step) (kept : List Entry), Thinned (history s steps) kept →
    history s (kept.map Entry.step) = kept ∧
      storeAfter s (kept.map Entry.step) = storeAfter s steps

section Lawful

variable {σ τ : Type} [NonceStore σ] [LE τ] [LT τ] [DecidableRel (LT.lt : τ → τ → Prop)]
variable [LawfulStore σ τ]

/-- A step at which a delivery is rejected does nothing to the store. -/
theorem perform_of_isRejected (hinj : Function.Injective (ledger : σ → Ledger τ)) {s : σ}
    {step : Step} (h : Entry.IsRejected ⟨step, (perform s step).2⟩) : (perform s step).1 = s := by
  obtain ⟨reason, hanswer⟩ := h
  cases step with
  | verify v d =>
    have hverdict : (v.verify s d).verdict = .rejected reason := Answer.verdict.inj hanswer
    refine hinj (Verifier.ledger_verify_of_not_accepted ?_)
    rw [hverdict]
    exact Verdict.noConfusion
  | claim c => cases hanswer
  | purge now => cases hanswer

/-- The induction is on the steps. A step that is struck out leaves the store where the rest of
the history begins. -/
theorem rejectedUnmissed (hinj : Function.Injective (ledger : σ → Ledger τ)) :
    RejectedUnmissed σ := by
  intro s steps
  induction steps generalizing s with
  | nil =>
    intro kept h
    cases h
    exact ⟨rfl, rfl⟩
  | cons step steps ih =>
    intro kept h
    cases h with
    | keep e h =>
      obtain ⟨hhistory, hstore⟩ := ih _ _ h
      exact ⟨congrArg (List.cons _) hhistory, hstore⟩
    | strike he h =>
      have hsame := perform_of_isRejected hinj he
      obtain ⟨hhistory, hstore⟩ := ih _ _ h
      rw [hsame] at hhistory hstore
      refine ⟨hhistory, hstore.trans ?_⟩
      rw [storeAfter, hsame]

end Lawful

/-! ## What a store is asked -/

/-- What can be asked of a store. -/
inductive Ask where
  | claim (claim : Claim)
  | purge (now : Instant)
deriving DecidableEq, Repr

/-- A store of any kind that keeps a record of what it is asked. -/
structure Recorded (σ : Type) where
  store : σ
  asked : List Ask

instance {σ : Type} [NonceStore σ] : NonceStore (Recorded σ) where
  claim s c :=
    ({ store := (NonceStore.claim s.store c).1, asked := s.asked ++ [.claim c] },
      (NonceStore.claim s.store c).2)
  purge s now :=
    ({ store := (NonceStore.purge s.store now).1, asked := s.asked ++ [.purge now] },
      (NonceStore.purge s.store now).2)

section Recorded

variable {σ : Type} [NonceStore σ]

/-- Keeping the record changes nothing for the caller. -/
theorem verify_recorded (s : Recorded σ) (v : Verifier) (d : Delivery) :
    (v.verify s d).verdict = (v.verify s.store d).verdict ∧
      (v.verify s d).store.store = (v.verify s.store d).store := by
  cases hcheck : v.check d with
  | error refusal =>
    obtain ⟨hverdict, hstore⟩ := Verifier.verify_of_refused s hcheck
    obtain ⟨hverdict', hstore'⟩ := Verifier.verify_of_refused s.store hcheck
    rw [hverdict, hstore, hverdict', hstore']
    exact ⟨rfl, rfl⟩
  | ok c =>
    rw [Verifier.verdict_eq_of_check s hcheck, Verifier.store_of_check s hcheck,
      Verifier.verdict_eq_of_check s.store hcheck, Verifier.store_of_check s.store hcheck]
    exact ⟨rfl, rfl⟩

/-- A delivery that fails a check is not brought before the store. -/
theorem store_recorded_of_failed {s : Recorded σ} {v : Verifier} {d : Delivery}
    {reason : FailureReason} (h : (v.verify s.store d).verdict = .rejected reason)
    (hr : reason ≠ .replay) (hu : reason ≠ .storeUnavailable) : (v.verify s d).store = s := by
  obtain ⟨refusal, hcheck⟩ := Verifier.exists_refusal h hr hu
  exact (Verifier.verify_of_refused s hcheck).2

end Recorded

/-- Over the store of a process and over the table in a file no rejected delivery is missed when it
is struck out. For any store, one that is rejected for another reason than a replay or an outage
asks nothing. -/
theorem rejected_leave_no_trace :
    RejectedUnmissed MemoryStore ∧ RejectedUnmissed TableStore ∧
    ∀ (σ : Type) [NonceStore σ] (s : Recorded σ) (v : Verifier) (d : Delivery)
      (reason : FailureReason), (v.verify s.store d).verdict = .rejected reason →
      reason ≠ .replay → reason ≠ .storeUnavailable →
      (v.verify s d).store = s :=
  ⟨rejectedUnmissed MemoryStore.ledger_injective, rejectedUnmissed TableStore.ledger_injective,
    fun _ _ _ _ _ _ => store_recorded_of_failed⟩

/-- A delivery without headers. -/
def bare (now : Instant) : Delivery := ⟨[], .ofList [], now⟩

/-- A forgery without headers, then the sample message twice. -/
def sampleSteps : List Step :=
  [ .verify .sample (bare ⟨1757962690, 0⟩),
    .verify .sample (.sample ⟨1757962690, 0⟩),
    .verify .sample (.sample ⟨1757962691, 0⟩) ]

/-- Without the forgery and the replay the history is one call, which is accepted as before, and the
store is the same. The forgery was not brought before the store. -/
theorem no_trace_of_sample :
    history MemoryStore.empty [.verify .sample (.sample ⟨1757962690, 0⟩)] =
      [⟨.verify .sample (.sample ⟨1757962690, 0⟩), .verdict .accepted⟩] ∧
    storeAfter MemoryStore.empty [.verify .sample (.sample ⟨1757962690, 0⟩)] =
      storeAfter MemoryStore.empty sampleSteps ∧
    (Verifier.sample.verify (⟨.empty, []⟩ : Recorded MemoryStore) (bare ⟨1757962690, 0⟩)).store =
      ⟨.empty, []⟩ := by
  have hforged := Verifier.verify_of_refused MemoryStore.empty
    (rfl : Verifier.sample.check (bare ⟨1757962690, 0⟩) = .error (.missingHeader false false false))
  have hcheck := (Verifier.authentic_sample ⟨1757962690, 0⟩).check_eq (by decide)
  have hcheck' := (Verifier.authentic_sample ⟨1757962691, 0⟩).check_eq (by decide)
  have haccepted := Verifier.verdict_of_check MemoryStore.empty hcheck
  have hreplay := Verifier.verdict_of_check
    (Verifier.sample.verify MemoryStore.empty (.sample ⟨1757962690, 0⟩)).store hcheck'
  rw [if_pos (by decide)] at haccepted
  rw [Verifier.store_of_check _ hcheck, if_neg (by decide)] at hreplay
  have hhistory : history MemoryStore.empty sampleSteps =
      [ ⟨.verify .sample (bare ⟨1757962690, 0⟩), .verdict (.rejected .missingHeader)⟩,
        ⟨.verify .sample (.sample ⟨1757962690, 0⟩), .verdict .accepted⟩,
        ⟨.verify .sample (.sample ⟨1757962691, 0⟩), .verdict (.rejected .replay)⟩ ] := by
    simp only [sampleSteps, history, perform, hforged.1, hforged.2, haccepted,
      Verifier.store_of_check _ hcheck, hreplay, Refusal.reason]
  have hthinned : Thinned (history MemoryStore.empty sampleSteps)
      [⟨.verify .sample (.sample ⟨1757962690, 0⟩), .verdict .accepted⟩] := by
    rw [hhistory]
    exact .strike ⟨_, rfl⟩ (.keep _ (.strike ⟨_, rfl⟩ .nil))
  obtain ⟨hkept, hstore⟩ := rejected_leave_no_trace.1 _ _ _ hthinned
  have hunasked := rejected_leave_no_trace.2.2 MemoryStore ⟨.empty, []⟩ .sample
    (bare ⟨1757962690, 0⟩) .missingHeader hforged.1 (by decide) (by decide)
  exact ⟨hkept, hstore, hunasked⟩

end Traffic

end WebhookGuard

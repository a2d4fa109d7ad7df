import WebhookGuard.Proofs.Store.LawfulStore
import WebhookGuard.Proofs.Timestamp.Numeral
import WebhookGuard.Verifier

/-
  What a verifier checks before it asks the store, and what comes of asking. A delivery passes when
  it is authentic, which does not depend on the clock, and fresh, which does (`check_eq_ok_iff`).
  Over a store that is a ledger the verdict is then acceptance or replay, by whether the store
  takes the nonce (`verdict_of_check`); in every other case the store is left alone.
-/
namespace WebhookGuard

open LawfulStore

namespace Verifier

/-! ## The checks -/

/-- The instant that the timestamp of a delivery names. -/
def sentAt? (v : Verifier) (h : Headers) : Option Instant :=
  (v.timestamp? h).bind (Timestamp.read? v.options.timestampPolicy)

/-- A message is fresh while neither its age nor its distance from the clock is too great. -/
def IsFresh (v : Verifier) (now sent : Instant) : Prop :=
  now.since sent ≤ v.options.maxMessageAge.nanos ∧
    (now.since sent).natAbs ≤ v.options.allowedClockSkew.nanos

instance (v : Verifier) (now sent : Instant) : Decidable (v.IsFresh now sent) :=
  inferInstanceAs (Decidable (_ ∧ _))

/-- A delivery is authentic when its three headers are there, its timestamp names an instant and
its signature is that of the message under the secret. -/
structure Authentic (v : Verifier) (body : Bytes) (headers : Headers) (timestamp nonce : String)
    (sent : Instant) : Prop where
  timestamp_eq : v.timestamp? headers = some timestamp
  nonce_eq : v.nonce? headers = some nonce
  read_eq : Timestamp.read? v.options.timestampPolicy timestamp = some sent
  signed : ∃ signature, v.signature? headers = some signature ∧
    signatureMatches v.options.secret timestamp nonce body signature
      v.options.signatureEncoding = true

theorem isFresh_iff (v : Verifier) (now sent : Instant) :
    v.IsFresh now sent ↔ v.isTooOld now sent = false ∧ v.isSkewed now sent = false := by
  unfold IsFresh isTooOld isSkewed
  simp only [decide_eq_false_iff_not]
  omega

theorem Authentic.sentAt?_eq {v : Verifier} {body : Bytes} {headers : Headers}
    {timestamp nonce : String} {sent : Instant}
    (h : v.Authentic body headers timestamp nonce sent) : v.sentAt? headers = some sent := by
  unfold sentAt?
  rw [h.timestamp_eq]
  exact h.read_eq

/-- The nonce of a delivery is not blank. -/
theorem isBlank_of_nonce? {v : Verifier} {headers : Headers} {nonce : String}
    (h : v.nonce? headers = some nonce) : Text.isBlank nonce = false := by
  unfold nonce? Headers.firstNonBlank? at h
  simpa using List.find?_some h

theorem checkMessage_eq_ok_iff {v : Verifier} {d : Delivery} {signature timestamp nonce : String}
    {c : Claim} : v.checkMessage d signature timestamp nonce = .ok c ↔
      ∃ sent, Timestamp.read? v.options.timestampPolicy timestamp = some sent ∧
        v.IsFresh d.now sent ∧
        signatureMatches v.options.secret timestamp nonce d.body signature
          v.options.signatureEncoding = true ∧
        c = ⟨nonce, v.expiry d.now sent, d.now⟩ := by
  unfold checkMessage
  cases Timestamp.read? v.options.timestampPolicy timestamp with
  | none => simp
  | some sent =>
    simp only [Option.some.injEq, exists_eq_left', isFresh_iff]
    cases v.isTooOld d.now sent
    · cases v.isSkewed d.now sent
      · cases signatureMatches v.options.secret timestamp nonce d.body signature
          v.options.signatureEncoding
        · simp
        · simpa using eq_comm
      · simp
    · simp

/-- A delivery makes a claim exactly when it is authentic and fresh. -/
theorem check_eq_ok_iff {v : Verifier} {d : Delivery} {c : Claim} :
    v.check d = .ok c ↔ ∃ timestamp sent, v.Authentic d.body d.headers timestamp c.nonce sent ∧
      v.IsFresh d.now sent ∧ c = ⟨c.nonce, v.expiry d.now sent, d.now⟩ := by
  constructor
  · intro h
    unfold check at h
    split at h
    · next signature timestamp nonce hs ht hn =>
      obtain ⟨sent, hread, hfresh, hsig, rfl⟩ := checkMessage_eq_ok_iff.mp h
      exact ⟨timestamp, sent, ⟨ht, hn, hread, signature, hs, hsig⟩, hfresh, rfl⟩
    · cases h
  · rintro ⟨timestamp, sent, ⟨ht, hn, hread, signature, hs, hsig⟩, hfresh, hc⟩
    unfold check
    rw [hs, ht, hn]
    exact checkMessage_eq_ok_iff.mpr ⟨sent, hread, hfresh, hsig, hc⟩

/-- The claim of an authentic and fresh delivery. -/
theorem Authentic.check_eq {v : Verifier} {d : Delivery} {timestamp nonce : String}
    {sent : Instant} (h : v.Authentic d.body d.headers timestamp nonce sent)
    (hf : v.IsFresh d.now sent) : v.check d = .ok ⟨nonce, v.expiry d.now sent, d.now⟩ :=
  check_eq_ok_iff.mpr ⟨timestamp, sent, h, hf, rfl⟩

theorem checkMessage_eq_error {v : Verifier} {d : Delivery} {signature timestamp nonce : String}
    {refusal : Refusal} (h : v.checkMessage d signature timestamp nonce = .error refusal) :
    ∃ reason : FailureReason,
      (reason ≠ .missingHeader ∧ reason ≠ .storeUnavailable ∧ reason ≠ .replay) ∧
        refusal = .failed reason nonce := by
  unfold checkMessage at h
  split at h
  · cases h
    exact ⟨_, by decide, rfl⟩
  · split at h
    · cases h
      exact ⟨_, by decide, rfl⟩
    · split at h
      · cases h
        exact ⟨_, by decide, rfl⟩
      · split at h
        · cases h
        · cases h
          exact ⟨_, by decide, rfl⟩

/-- A refusal tells which headers were found or names the nonce. The store has no part in it. -/
theorem check_eq_error {v : Verifier} {d : Delivery} {refusal : Refusal}
    (h : v.check d = .error refusal) :
    refusal = .missingHeader (v.signature? d.headers).isSome (v.timestamp? d.headers).isSome
        (v.nonce? d.headers).isSome ∨
      ∃ nonce, v.nonce? d.headers = some nonce ∧ ∃ reason : FailureReason,
        (reason ≠ .missingHeader ∧ reason ≠ .storeUnavailable ∧ reason ≠ .replay) ∧
          refusal = .failed reason nonce := by
  unfold check at h
  split at h
  · next signature timestamp nonce hs ht hn =>
    exact Or.inr ⟨nonce, hn, checkMessage_eq_error h⟩
  · cases h
    exact Or.inl rfl

/-- The checks alone never find a replay. -/
theorem reason_ne_replay {v : Verifier} {d : Delivery} {refusal : Refusal}
    (h : v.check d = .error refusal) : refusal.reason ≠ .replay := by
  rcases check_eq_error h with rfl | ⟨nonce, -, reason, ⟨-, -, hreason⟩, rfl⟩
  · exact FailureReason.noConfusion
  · exact hreason

/-! ## Asking the store -/

/-- A delivery that is refused leaves the store as it is. -/
theorem verify_of_refused {σ : Type} [NonceStore σ] (s : σ) {v : Verifier} {d : Delivery}
    {refusal : Refusal} (h : v.check d = .error refusal) :
    (v.verify s d).verdict = .rejected refusal.reason ∧ (v.verify s d).store = s := by
  unfold verify
  rw [h]
  exact ⟨rfl, rfl⟩

/-- Whatever the answer, the claim that the checks let through has run its course. -/
theorem store_of_check {σ : Type} [NonceStore σ] (s : σ) {v : Verifier} {d : Delivery}
    {c : Claim} (h : v.check d = .ok c) : (v.verify s d).store = (NonceStore.claim s c).1 := by
  unfold verify
  rw [h]

/-- The verdict is what the answer to the claim says, as far as it was waited for. -/
theorem verdict_eq_of_check {σ : Type} [NonceStore σ] (s : σ) {v : Verifier} {d : Delivery}
    {c : Claim} (h : v.check d = .ok c) : (v.verify s d).verdict =
      verdictOf ((NonceStore.claim s c).2.within v.options.storeTimeout) := by
  unfold verify
  rw [h]

theorem verdictOf_eq_accepted_iff {answer : Except StoreError Bool} :
    verdictOf answer = .accepted ↔ answer = .ok true := by
  unfold verdictOf
  split <;> simp

theorem verdictOf_eq_rejected_iff {answer : Except StoreError Bool} {reason : FailureReason} :
    verdictOf answer = .rejected reason ↔
      (reason = .replay ∧ answer = .ok false) ∨
        (reason = .storeUnavailable ∧ ∃ e, answer = .error e) := by
  unfold verdictOf
  split <;> simp [eq_comm]

/-- Other reasons than a replay and an outage of the store come from the checks. -/
theorem exists_refusal {σ : Type} [NonceStore σ] {s : σ} {v : Verifier} {d : Delivery}
    {reason : FailureReason} (h : (v.verify s d).verdict = .rejected reason)
    (hr : reason ≠ .replay) (hu : reason ≠ .storeUnavailable) :
    ∃ refusal, v.check d = .error refusal := by
  cases hcheck : v.check d with
  | error refusal => exact ⟨refusal, rfl⟩
  | ok c =>
    rw [verdict_eq_of_check s hcheck, verdictOf_eq_rejected_iff] at h
    rcases h with ⟨hreplay, -⟩ | ⟨hunavailable, -⟩
    · exact absurd hreplay hr
    · exact absurd hunavailable hu

section Lawful

variable {σ τ : Type} [NonceStore σ] [LE τ] [LT τ] [DecidableRel (LT.lt : τ → τ → Prop)]
variable [lawful : LawfulStore σ τ]

/-- An answer that comes at once is in time for every limit. -/
theorem within_of_no_delay (answer : Except StoreError Bool) (limit : Duration) :
    ({ answer } : Reply).within limit = answer := by
  have hw : Timer.wait Duration.zero = Duration.zero := by decide
  have hl : ({ answer } : Reply).isLate limit = false := by
    unfold Reply.isLate
    rw [hw]
    exact decide_eq_false (Nat.not_lt_zero _)
  unfold Reply.within
  rw [hl]
  rfl

/-- A delivery that passes the checks is accepted when the store takes its nonce; otherwise it is
a replay. -/
theorem verdict_of_check (s : σ) {v : Verifier} {d : Delivery} {c : Claim}
    (h : v.check d = .ok c) :
    (v.verify s d).verdict = if takes s c then .accepted else .rejected .replay := by
  rw [verdict_eq_of_check s h, claim_snd, within_of_no_delay]
  cases takes s c <;> rfl

/-- A delivery is accepted exactly when it passes the checks and the store takes its nonce. -/
theorem verify_accepted_iff (s : σ) (v : Verifier) (d : Delivery) :
    (v.verify s d).verdict = .accepted ↔ ∃ c, v.check d = .ok c ∧ takes s c = true := by
  cases h : v.check d with
  | error refusal =>
    rw [(verify_of_refused s h).1]
    simp
  | ok c =>
    rw [verdict_of_check s h]
    cases ht : takes s c <;> simp [ht]

include lawful in
/-- What passes the checks and is not accepted is a replay. -/
theorem verdict_of_not_accepted {s : σ} {v : Verifier} {d : Delivery} {c : Claim}
    (h : v.check d = .ok c) (ha : (v.verify s d).verdict ≠ .accepted) :
    (v.verify s d).verdict = .rejected .replay := by
  rw [verdict_of_check s h] at ha ⊢
  split
  · next ht => exact absurd (if_pos ht) ha
  · rfl

end Lawful

end Verifier

end WebhookGuard

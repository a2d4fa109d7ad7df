import WebhookGuard.Proofs.Timestamp.Blank
import WebhookGuard.Proofs.Verifier.Flight
import WebhookGuard.Proofs.Verifier.Signed
import WebhookGuard.Store.Stateless

/-
  The verdict, whatever is delivered and whatever the store does. The stages come one after the
  other and each has a verdict of its own. The headers are incomplete, or the timestamp names no
  instant, or the headers can be read (`stages`). What has been read is judged by the clock, then by
  the signature, then by the answer of the store, if it comes in time (`verdict_of_reads`).
-/
namespace WebhookGuard

open Instant

/-! ## Waiting for an answer -/

/-- An answer is late when it takes more milliseconds than it may. -/
theorem Reply.isLate_iff {reply : Reply} {limit delay : Nat}
    (h : Timer.wait reply.delay = .ofMillis delay) :
    reply.isLate (.ofMillis limit) = true ↔ limit < delay := by
  unfold isLate
  rw [h, Timer.goesOff_ofMillis, decide_eq_true_eq]
  change limit * 1000000 < delay * 1000000 ↔ limit < delay
  omega

/-- What is known of an answer is what it says, unless it is late. -/
theorem Reply.within_eq_ok_iff {reply : Reply} {limit delay : Nat} {taken : Bool}
    (h : Timer.wait reply.delay = .ofMillis delay) :
    reply.within (.ofMillis limit) = .ok taken ↔ delay ≤ limit ∧ reply.answer = .ok taken := by
  have hlate : reply.isLate (.ofMillis limit) = true ↔ limit < delay := isLate_iff h
  unfold within
  split
  · next hl =>
    have hlt := hlate.mp hl
    exact iff_of_false (fun herror => by cases herror) (by omega)
  · next hl =>
    have hle := mt hlate.mpr hl
    exact (and_iff_right (by omega)).symm

theorem Reply.within_eq_error_iff {reply : Reply} {limit delay : Nat}
    (h : Timer.wait reply.delay = .ofMillis delay) :
    (∃ e, reply.within (.ofMillis limit) = .error e) ↔
      limit < delay ∨ ∃ e, reply.answer = .error e := by
  have hlate : reply.isLate (.ofMillis limit) = true ↔ limit < delay := isLate_iff h
  unfold within
  split
  · next hl => exact iff_of_true ⟨_, rfl⟩ (Or.inl (hlate.mp hl))
  · next hl => exact (or_iff_right (mt hlate.mpr hl)).symm

namespace Verifier

variable {σ : Type} [NonceStore σ] {s : σ} {v : Verifier} {d : Delivery} {now sent : Instant}
variable {signature timestamp nonce : String}

/-! ## Reading the headers -/

/-- For the signature and for the nonce there is a value that is not blank, and for the timestamp
there is a value. -/
def Complete (v : Verifier) (h : Headers) : Prop :=
  (∃ signature, h.IsFirstNonBlank (v.options.names .signature) signature) ∧
    h.Presents (v.options.names .timestamp) ∧
    ∃ nonce, h.IsFirstNonBlank (v.options.names .nonce) nonce

/-- What the headers say: the first values that are not blank, and the instant that the timestamp
names. -/
structure Reads (v : Verifier) (h : Headers) (signature timestamp nonce : String)
    (sent : Instant) : Prop where
  signature_first : h.IsFirstNonBlank (v.options.names .signature) signature
  timestamp_first : h.IsFirstNonBlank (v.options.names .timestamp) timestamp
  nonce_first : h.IsFirstNonBlank (v.options.names .nonce) nonce
  read_eq : Timestamp.read? v.options.timestampPolicy timestamp = some sent

/-- The signature is that of the message under the secret. -/
def isSigned (v : Verifier) (d : Delivery) (signature timestamp nonce : String) : Bool :=
  signatureMatches v.options.secret timestamp nonce d.body signature v.options.signatureEncoding

/-- What the store replies to the claim for a message. -/
def replyTo (v : Verifier) (s : σ) (now : Instant) (nonce : String) (sent : Instant) : Reply :=
  (NonceStore.claim s ⟨nonce, v.expiry now sent, now⟩).2

theorem timestamp?_of_isFirstNonBlank {h : Headers}
    (hf : h.IsFirstNonBlank (v.options.names .timestamp) timestamp) :
    v.timestamp? h = some timestamp := by
  unfold timestamp?
  rw [Headers.firstNonBlank?_eq_some_iff.mpr hf]
  rfl

/-- A timestamp that names an instant is not blank, so it is the first that is not. -/
theorem isFirstNonBlank_of_timestamp? {h : Headers} (ht : v.timestamp? h = some timestamp)
    (hread : Timestamp.read? v.options.timestampPolicy timestamp = some sent) :
    h.IsFirstNonBlank (v.options.names .timestamp) timestamp := by
  unfold timestamp? at ht
  cases hfirst : h.firstNonBlank? (v.options.names .timestamp) with
  | some value =>
    rw [hfirst] at ht
    obtain rfl := Option.some.inj ht
    exact Headers.firstNonBlank?_eq_some_iff.mp hfirst
  | none =>
    rw [hfirst, Option.none_or] at ht
    rw [Timestamp.read?_of_isBlank (Headers.isBlank_of_firstPresent? hfirst ht)] at hread
    cases hread

theorem isSome_timestamp?_iff {h : Headers} :
    (v.timestamp? h).isSome ↔ h.Presents (v.options.names .timestamp) := by
  unfold timestamp?
  rw [Option.isSome_or, Bool.or_eq_true, Headers.firstNonBlank?_isSome_iff,
    Headers.firstPresent?_isSome_iff]
  exact or_iff_right_of_imp fun ⟨_, hf⟩ => hf.presents

/-- An authentic delivery can be read, and is signed. -/
theorem Authentic.reads (h : v.Authentic d.body d.headers timestamp nonce sent) :
    ∃ signature, v.Reads d.headers signature timestamp nonce sent ∧
      v.isSigned d signature timestamp nonce = true := by
  obtain ⟨ht, hn, hread, signature, hs, hsig⟩ := h
  exact ⟨signature, ⟨Headers.firstNonBlank?_eq_some_iff.mp hs,
    isFirstNonBlank_of_timestamp? ht hread, Headers.firstNonBlank?_eq_some_iff.mp hn, hread⟩, hsig⟩

theorem Reads.authentic (h : v.Reads d.headers signature timestamp nonce sent)
    (hsigned : v.isSigned d signature timestamp nonce = true) :
    v.Authentic d.body d.headers timestamp nonce sent :=
  ⟨timestamp?_of_isFirstNonBlank h.timestamp_first,
    Headers.firstNonBlank?_eq_some_iff.mpr h.nonce_first, h.read_eq, signature,
    Headers.firstNonBlank?_eq_some_iff.mpr h.signature_first, hsigned⟩

/-! ## The stages -/

/-- Headers that are complete are all found. -/
theorem Complete.exists_headers {h : Headers} (hc : v.Complete h) :
    ∃ signature timestamp nonce, v.signature? h = some signature ∧
      v.timestamp? h = some timestamp ∧ v.nonce? h = some nonce := by
  obtain ⟨⟨signature, hs⟩, ht, nonce, hn⟩ := hc
  obtain ⟨timestamp, ht⟩ := Option.isSome_iff_exists.mp (isSome_timestamp?_iff.mpr ht)
  exact ⟨signature, timestamp, nonce, Headers.firstNonBlank?_eq_some_iff.mpr hs, ht,
    Headers.firstNonBlank?_eq_some_iff.mpr hn⟩

theorem verdict_of_not_complete (hc : ¬ v.Complete d.headers) :
    (v.verify s d).verdict = .rejected .missingHeader := by
  have hcheck : ∃ found₁ found₂ found₃,
      v.check d = .error (.missingHeader found₁ found₂ found₃) := by
    unfold check
    split
    · next signature timestamp nonce hs ht hn =>
      refine absurd ⟨?_, ?_, ?_⟩ hc
      · exact ⟨signature, Headers.firstNonBlank?_eq_some_iff.mp hs⟩
      · exact isSome_timestamp?_iff.mp (by rw [ht]; rfl)
      · exact ⟨nonce, Headers.firstNonBlank?_eq_some_iff.mp hn⟩
    · exact ⟨_, _, _, rfl⟩
  obtain ⟨_, _, _, hcheck⟩ := hcheck
  exact (verify_of_refused s hcheck).1

/-- The verdict on a delivery whose headers can be read. -/
theorem verdict_of_reads (h : v.Reads d.headers signature timestamp nonce sent) :
    (v.verify s d).verdict =
      if v.isTooOld d.now sent then .rejected .messageTooOld
      else if v.isSkewed d.now sent then .rejected .clockSkew
      else if v.isSigned d signature timestamp nonce then
        verdictOf ((v.replyTo s d.now nonce sent).within v.options.storeTimeout)
      else .rejected .signatureMismatch := by
  have hs := Headers.firstNonBlank?_eq_some_iff.mpr h.signature_first
  have ht := timestamp?_of_isFirstNonBlank h.timestamp_first
  have hn := Headers.firstNonBlank?_eq_some_iff.mpr h.nonce_first
  have hcheck : v.check d =
      if v.isTooOld d.now sent then .error (.failed .messageTooOld nonce)
      else if v.isSkewed d.now sent then .error (.failed .clockSkew nonce)
      else if v.isSigned d signature timestamp nonce then
        .ok ⟨nonce, v.expiry d.now sent, d.now⟩
      else .error (.failed .signatureMismatch nonce) := by
    unfold check signature? nonce?
    rw [hs, ht, hn]
    simp only [checkMessage, h.read_eq]
    rfl
  split
  · next hold =>
    rw [if_pos hold] at hcheck
    exact (verify_of_refused s hcheck).1
  · next hold =>
    rw [if_neg hold] at hcheck
    split
    · next hskewed =>
      rw [if_pos hskewed] at hcheck
      exact (verify_of_refused s hcheck).1
    · next hskewed =>
      rw [if_neg hskewed] at hcheck
      split
      · next hsig =>
        rw [if_pos hsig] at hcheck
        exact verdict_eq_of_check s hcheck
      · next hsig =>
        rw [if_neg hsig] at hcheck
        exact (verify_of_refused s hcheck).1

/-- The verdict on a delivery whose timestamp names no instant. -/
theorem verdict_of_unreadable (hc : v.Complete d.headers)
    (hnone : ∀ timestamp, d.headers.IsFirstNonBlank (v.options.names .timestamp) timestamp →
      Timestamp.read? v.options.timestampPolicy timestamp = none) :
    (v.verify s d).verdict = .rejected .invalidTimestamp := by
  obtain ⟨signature, timestamp, nonce, hs, ht, hn⟩ := hc.exists_headers
  have hread : Timestamp.read? v.options.timestampPolicy timestamp = none := by
    cases hread : Timestamp.read? v.options.timestampPolicy timestamp with
    | none => rfl
    | some sent => exact hread.symm.trans (hnone _ (isFirstNonBlank_of_timestamp? ht hread))
  have hcheck : v.check d = .error (.failed .invalidTimestamp nonce) := by
    unfold check checkMessage
    simp only [hs, ht, hn, hread]
  exact (verify_of_refused s hcheck).1

/-- The first three stages: incomplete, unreadable, or read. -/
theorem stages (v : Verifier) (h : Headers) :
    ¬ v.Complete h ∨
      (v.Complete h ∧ ∀ timestamp, h.IsFirstNonBlank (v.options.names .timestamp) timestamp →
        Timestamp.read? v.options.timestampPolicy timestamp = none) ∨
      ∃ signature timestamp nonce sent, v.Reads h signature timestamp nonce sent := by
  by_cases hc : v.Complete h
  · refine Or.inr ?_
    by_cases hread : ∃ timestamp sent,
        h.IsFirstNonBlank (v.options.names .timestamp) timestamp ∧
          Timestamp.read? v.options.timestampPolicy timestamp = some sent
    · obtain ⟨⟨signature, hs⟩, -, nonce, hn⟩ := hc
      obtain ⟨timestamp, sent, ht, hread⟩ := hread
      exact Or.inr ⟨signature, timestamp, nonce, sent, hs, ht, hn, hread⟩
    · refine Or.inl ⟨hc, fun timestamp ht => Option.eq_none_iff_forall_ne_some.mpr ?_⟩
      exact fun sent hsent => hread ⟨timestamp, sent, ht, hsent⟩
  · exact Or.inl hc

/-- A delivery that has been read has passed the first two stages. -/
theorem Reads.complete {h : Headers} (hr : v.Reads h signature timestamp nonce sent) :
    v.Complete h :=
  ⟨⟨_, hr.signature_first⟩, hr.timestamp_first.presents, _, hr.nonce_first⟩

/-! ## Verdicts on what has been read -/

section Read

variable (h : v.Reads d.headers signature timestamp nonce sent)

include h

/-- The reason of a rejection is the first check that fails, or what the store says. -/
theorem rejected_iff {reason : FailureReason} : (v.verify s d).verdict = .rejected reason ↔
    (v.isTooOld d.now sent = true ∧ reason = .messageTooOld) ∨
    (v.isTooOld d.now sent = false ∧ v.isSkewed d.now sent = true ∧ reason = .clockSkew) ∨
    (v.IsFresh d.now sent ∧ v.isSigned d signature timestamp nonce = false ∧
      reason = .signatureMismatch) ∨
    (v.IsFresh d.now sent ∧ v.isSigned d signature timestamp nonce = true ∧
      ((reason = .replay ∧
          (v.replyTo s d.now nonce sent).within v.options.storeTimeout = .ok false) ∨
        (reason = .storeUnavailable ∧
          ∃ e, (v.replyTo s d.now nonce sent).within v.options.storeTimeout = .error e))) := by
  rw [verdict_of_reads h, isFresh_iff]
  cases v.isTooOld d.now sent
  · cases v.isSkewed d.now sent
    · cases v.isSigned d signature timestamp nonce
      · simpa using eq_comm
      · simp [verdictOf_eq_rejected_iff]
    · simpa using eq_comm
  · simpa using eq_comm

theorem accepted_iff : (v.verify s d).verdict = .accepted ↔
    v.IsFresh d.now sent ∧ v.isSigned d signature timestamp nonce = true ∧
      (v.replyTo s d.now nonce sent).within v.options.storeTimeout = .ok true := by
  rw [verdict_of_reads h, isFresh_iff]
  cases v.isTooOld d.now sent
  · cases v.isSkewed d.now sent
    · cases v.isSigned d signature timestamp nonce
      · simp
      · simp [verdictOf_eq_accepted_iff]
    · simp
  · simp

end Read

/-- What has been read has passed the first two stages. -/
theorem verdict_ne_of_reads (h : v.Reads d.headers signature timestamp nonce sent) :
    (v.verify s d).verdict ≠ .rejected .missingHeader ∧
      (v.verify s d).verdict ≠ .rejected .invalidTimestamp := by
  simp [rejected_iff h]

theorem missingHeader_iff :
    (v.verify s d).verdict = .rejected .missingHeader ↔ ¬ v.Complete d.headers := by
  refine ⟨fun hverdict => ?_, verdict_of_not_complete⟩
  rcases stages v d.headers with hc | ⟨hc, hnone⟩ | ⟨_, _, _, _, hr⟩
  · exact hc
  · rw [verdict_of_unreadable hc hnone] at hverdict
    cases hverdict
  · exact absurd hverdict (verdict_ne_of_reads hr).1

theorem invalidTimestamp_iff : (v.verify s d).verdict = .rejected .invalidTimestamp ↔
    v.Complete d.headers ∧
      ∀ timestamp, d.headers.IsFirstNonBlank (v.options.names .timestamp) timestamp →
        Timestamp.read? v.options.timestampPolicy timestamp = none := by
  refine ⟨fun hverdict => ?_, fun ⟨hc, hnone⟩ => verdict_of_unreadable hc hnone⟩
  rcases stages v d.headers with hc | hunreadable | ⟨_, _, _, _, hr⟩
  · rw [verdict_of_not_complete hc] at hverdict
    cases hverdict
  · exact hunreadable
  · exact absurd hverdict (verdict_ne_of_reads hr).2

/-- Nothing is accepted but authentic and fresh deliveries whose nonce the store takes in time. -/
theorem accepted_iff_authentic : (v.verify s d).verdict = .accepted ↔
    ∃ timestamp nonce sent, v.Authentic d.body d.headers timestamp nonce sent ∧
      v.IsFresh d.now sent ∧
      (v.replyTo s d.now nonce sent).within v.options.storeTimeout = .ok true := by
  constructor
  · intro hverdict
    rcases stages v d.headers with hc | ⟨hc, hnone⟩ | ⟨signature, timestamp, nonce, sent, hr⟩
    · rw [verdict_of_not_complete hc] at hverdict
      cases hverdict
    · rw [verdict_of_unreadable hc hnone] at hverdict
      cases hverdict
    · obtain ⟨hfresh, hsigned, hanswer⟩ := (accepted_iff hr).mp hverdict
      exact ⟨timestamp, nonce, sent, hr.authentic hsigned, hfresh, hanswer⟩
  · rintro ⟨timestamp, nonce, sent, hauth, hfresh, hanswer⟩
    obtain ⟨signature, hr, hsigned⟩ := hauth.reads
    exact (accepted_iff hr).mpr ⟨hfresh, hsigned, hanswer⟩

/-! ## To the nanosecond and to the millisecond -/

section Counts

variable (hn : now.Ordinary) (hs : sent.Ordinary)

include hn hs

theorem isTooOld_iff : v.isTooOld now sent = true ↔
    sent.count + v.options.maxMessageAge.nanos < now.count := by
  unfold isTooOld
  rw [decide_eq_true_eq, since_eq_sub hn hs]
  omega

theorem isSkewed_iff : v.isSkewed now sent = true ↔
    now.count < sent.count - v.options.allowedClockSkew.nanos ∨
      sent.count + v.options.allowedClockSkew.nanos < now.count := by
  unfold isSkewed
  rw [decide_eq_true_eq, since_eq_sub hn hs]
  omega

end Counts

/-- The verdict is decided by the first of these that applies. The headers are incomplete. The first
timestamp that is not blank names no instant, or all of them are blank. The clock has passed the
age. The clock is away by more than the skew. The signature does not match. And last the answer of
the store, which comes after `delay` milliseconds when it has `limit`. All bounds are exact, to the
nanosecond for ordinary instants. In no other case is a delivery accepted, in leap seconds
neither. -/
theorem exact_verdict (v : Verifier) (s : σ) (d : Delivery) :
    ((v.verify s d).verdict = .rejected .missingHeader ↔ ¬ v.Complete d.headers) ∧
    ((v.verify s d).verdict = .rejected .invalidTimestamp ↔ v.Complete d.headers ∧
      ∀ timestamp, d.headers.IsFirstNonBlank (v.options.names .timestamp) timestamp →
        Timestamp.read? v.options.timestampPolicy timestamp = none) ∧
    (∀ signature timestamp nonce sent, v.Reads d.headers signature timestamp nonce sent →
      d.now.Ordinary → sent.Ordinary →
      ((v.verify s d).verdict = .rejected .messageTooOld ↔
        sent.count + v.options.maxMessageAge.nanos < d.now.count) ∧
      ((v.verify s d).verdict = .rejected .clockSkew ↔
        ¬ sent.count + v.options.maxMessageAge.nanos < d.now.count ∧
          (d.now.count < sent.count - v.options.allowedClockSkew.nanos ∨
            sent.count + v.options.allowedClockSkew.nanos < d.now.count)) ∧
      ((v.verify s d).verdict = .rejected .signatureMismatch ↔
        (v.firstFresh sent ≤ d.now ∧ d.now ≤ v.lastFresh sent) ∧
          v.isSigned d signature timestamp nonce = false) ∧
      ∀ limit delay, v.options.storeTimeout = .ofMillis limit →
        Timer.wait (v.replyTo s d.now nonce sent).delay = .ofMillis delay →
        ((v.verify s d).verdict = .accepted ↔
          (v.firstFresh sent ≤ d.now ∧ d.now ≤ v.lastFresh sent) ∧
            v.isSigned d signature timestamp nonce = true ∧
            delay ≤ limit ∧ (v.replyTo s d.now nonce sent).answer = .ok true) ∧
        ((v.verify s d).verdict = .rejected .replay ↔
          (v.firstFresh sent ≤ d.now ∧ d.now ≤ v.lastFresh sent) ∧
            v.isSigned d signature timestamp nonce = true ∧
            delay ≤ limit ∧ (v.replyTo s d.now nonce sent).answer = .ok false) ∧
        ((v.verify s d).verdict = .rejected .storeUnavailable ↔
          (v.firstFresh sent ≤ d.now ∧ d.now ≤ v.lastFresh sent) ∧
            v.isSigned d signature timestamp nonce = true ∧
            (limit < delay ∨ ∃ e, (v.replyTo s d.now nonce sent).answer = .error e))) ∧
    ((v.verify s d).verdict = .accepted ↔
      ∃ timestamp nonce sent, v.Authentic d.body d.headers timestamp nonce sent ∧
        v.IsFresh d.now sent ∧
        (v.replyTo s d.now nonce sent).within v.options.storeTimeout = .ok true) := by
  refine ⟨missingHeader_iff, invalidTimestamp_iff, ?_, accepted_iff_authentic⟩
  intro signature timestamp nonce sent hr hn hs
  have hold := isTooOld_iff (v := v) hn hs
  have hskewed := isSkewed_iff (v := v) hn hs
  have hfresh := isFresh_iff_le (v := v) hn hs
  refine ⟨?_, ?_, ?_, ?_⟩
  · rw [rejected_iff hr, ← hold]
    simp
  · rw [rejected_iff hr, ← hold, ← hskewed]
    simp
  · rw [rejected_iff hr, ← hfresh]
    simp
  · intro limit delay hlimit hdelay
    rw [accepted_iff hr, rejected_iff hr, rejected_iff hr, ← hfresh, hlimit]
    refine ⟨?_, ?_, ?_⟩
    · rw [Reply.within_eq_ok_iff hdelay]
    · rw [Reply.within_eq_ok_iff hdelay]
      simp
    · rw [Reply.within_eq_error_iff hdelay]
      simp

/-- The sample message at a store that takes every nonce. An answer after a second is in time, one
after three seconds is not. -/
theorem exact_verdict_of_slow_store :
    (sample.verify (⟨.ofMillis 1000, true⟩ : SlowStore) (.sample ⟨1757962690, 0⟩)).verdict =
      .accepted ∧
    (sample.verify (⟨.ofMillis 3000, true⟩ : SlowStore) (.sample ⟨1757962690, 0⟩)).verdict =
      .rejected .storeUnavailable := by
  obtain ⟨signature, hr, hsigned⟩ := (authentic_sample ⟨1757962690, 0⟩).reads
  have hwindow : sample.firstFresh ⟨1757962690, 0⟩ ≤ (Delivery.sample ⟨1757962690, 0⟩).now ∧
      (Delivery.sample ⟨1757962690, 0⟩).now ≤ sample.lastFresh ⟨1757962690, 0⟩ := by decide
  have hlimit : sample.options.storeTimeout = .ofMillis 2000 := by decide
  constructor
  · obtain ⟨-, -, hread, -⟩ := exact_verdict sample (⟨.ofMillis 1000, true⟩ : SlowStore)
      (.sample ⟨1757962690, 0⟩)
    obtain ⟨-, -, -, hstore⟩ := hread _ _ _ _ hr (by decide) (by decide)
    have hanswer := hstore 2000 1000 hlimit (Timer.wait_ofMillis (by decide))
    exact hanswer.1.mpr ⟨hwindow, hsigned, by decide, rfl⟩
  · obtain ⟨-, -, hread, -⟩ := exact_verdict sample (⟨.ofMillis 3000, true⟩ : SlowStore)
      (.sample ⟨1757962690, 0⟩)
    obtain ⟨-, -, -, hstore⟩ := hread _ _ _ _ hr (by decide) (by decide)
    have hanswer := hstore 2000 3000 hlimit (Timer.wait_ofMillis (by decide))
    exact hanswer.2.2.mpr ⟨hwindow, hsigned, Or.inl (by decide)⟩

end Verifier

end WebhookGuard

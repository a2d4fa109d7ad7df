import Mathlib
import WebhookGuard.Proofs.Receiver.Answer
import WebhookGuard.Proofs.Traffic.Rejected

/-
  The counters over a run of requests. A request either brings a delivery that is read, and then its
  verdict is counted once and its latency is observed once, or it leaves the receiver as it is
  (`handle_cases`). So a counter has grown by the number of deliveries with its verdict
  (`count_after`), and since responses follow verdicts, the counters account for the responses
  (`every_delivery_counted_once`).
-/
namespace WebhookGuard

theorem Verdict.mem_all (v : Verdict) : v ∈ Verdict.all := by
  cases v with
  | accepted => decide
  | rejected reason => cases reason <;> decide

/-- The verdicts that are final and not acceptance. -/
def Verdict.refusals : List Verdict :=
  (FailureReason.all.filter fun reason => !reason.isRetriable).map rejected

theorem Verdict.mem_refusals {v : Verdict} :
    v ∈ refusals ↔ v ≠ .accepted ∧ v ≠ .rejected .storeUnavailable := by
  cases v with
  | accepted => decide
  | rejected reason => cases reason <;> decide

/-- No two verdicts share a label. -/
theorem Verdict.filter_label (v : Verdict) :
    (Verdict.all.filter fun w => w.label = v.label) = [v] := by
  cases v with
  | accepted => decide
  | rejected reason => cases reason <;> decide

/-- What is counted under a label. -/
def Metrics.counter (m : Metrics) (label : String) : Nat :=
  ((Verdict.all.filter fun v => v.label = label).map m.verdicts.count).sum

theorem Metrics.counter_label (m : Metrics) (v : Verdict) :
    m.counter v.label = m.verdicts.count v := by
  unfold counter
  rw [Verdict.filter_label]
  exact Nat.add_zero _

/-- A body over the limit is not read. -/
theorem Request.content_of_long {r : Request} (hcoding : r.coding? = none)
    (hbody : bodyLimit < r.body.length) : ∃ fault, r.content = .error fault := by
  unfold content unpackedBody
  rw [hcoding]
  cases r.declaredLength with
  | error fault => exact ⟨fault, rfl⟩
  | ok declared =>
    refine ⟨.tooLong, ?_⟩
    by_cases hlimit : bodyLimit < declared.getD 0
    · exact if_pos hlimit
    · exact (if_neg hlimit).trans (if_pos hbody)

namespace Receiver

/-- A request, the verdict on what it brought, and the response. -/
structure Exchange where
  request : Request
  verdict? : Option Verdict
  response : Response

variable {σ : Type} [NonceStore σ]

/-- The receiver after some requests, each at its clock reading. -/
def after (s : Receiver σ) : List (Request × Instant) → Receiver σ
  | [] => s
  | (r, now) :: requests => (s.handle r now).1.after requests

/-- The exchanges of some requests, in order. -/
def exchanges (s : Receiver σ) : List (Request × Instant) → List Exchange
  | [] => []
  | (r, now) :: requests =>
    ⟨r, s.verdict? r now, s.answer r now⟩ :: (s.handle r now).1.exchanges requests

/-! ## One request -/

theorem handle_of_not_isDelivery (s : Receiver σ) {r : Request} (h : ¬ r.IsDelivery)
    (now : Instant) : (s.handle r now).1 = s ∧ s.verdict? r now = none := by
  rw [← Endpoint.of?_eq_deliveries_iff] at h
  unfold handle verdict?
  cases hplace : Endpoint.of? r with
  | none => exact ⟨rfl, rfl⟩
  | some place =>
    cases place with
    | health => exact ⟨rfl, rfl⟩
    | metrics => exact ⟨rfl, rfl⟩
    | deliveries => exact absurd hplace h

/-- Where no delivery is read, nothing changes. -/
theorem handle_of_unread (s : Receiver σ) {r : Request}
    (h : ¬ r.IsDelivery ∨ ∃ fault, r.content = .error fault) (now : Instant) :
    (s.handle r now).1 = s ∧ s.verdict? r now = none := by
  by_cases hr : r.IsDelivery
  · obtain ⟨fault, hfault⟩ := h.resolve_left fun hno => hno hr
    rw [s.handle_of_unreadable hr hfault now]
    unfold verdict?
    rw [hfault]
    exact ⟨rfl, by split <;> simp_all⟩
  · exact s.handle_of_not_isDelivery hr now

/-- A request leaves the receiver as it is or has one verdict counted and one latency observed. -/
theorem handle_cases (s : Receiver σ) (r : Request) (now : Instant) :
    (∃ verdict took, s.verdict? r now = some verdict ∧
      (s.handle r now).1.metrics = s.metrics.record verdict took) ∨
      (s.verdict? r now = none ∧ (s.handle r now).1 = s) := by
  by_cases hunread : ¬ r.IsDelivery ∨ ∃ fault, r.content = .error fault
  · exact Or.inr (s.handle_of_unread hunread now).symm
  · push Not at hunread
    obtain ⟨hr, hread⟩ := hunread
    cases hcontent : r.content with
    | error fault => exact absurd hcontent (hread fault)
    | ok body =>
      refine Or.inl ⟨_, (s.verifier.verify s.store ⟨body, r.headers, now⟩).waited,
        s.verdict?_of_content hr hcontent now, ?_⟩
      unfold handle
      rw [Endpoint.of?_eq_deliveries_iff.mpr hr]
      show (s.deliver r now).1.metrics = _
      unfold deliver
      rw [hcontent]

theorem status_unreadable (fault : BodyFault) :
    (unreadable fault).status = 413 ∨ (unreadable fault).status = 400 := by
  cases fault with
  | tooLong => exact Or.inl rfl
  | unknownLength => exact Or.inr rfl
  | packed fault => exact Or.inr rfl

omit [NonceStore σ] in
theorem status_counters (s : Receiver σ) (r : Request) :
    (s.counters r).status = 200 ∨ (s.counters r).status = 401 ∨ (s.counters r).status = 403 := by
  unfold counters
  split
  · exact Or.inl rfl
  · exact Or.inr (Or.inl rfl)
  · exact Or.inr (Or.inr rfl)

/-- No outage is reported but to a delivery. -/
theorem status_of_not_isDelivery (s : Receiver σ) {r : Request} (h : ¬ r.IsDelivery)
    (now : Instant) : (s.answer r now).status ≠ 503 := by
  rw [← Endpoint.of?_eq_deliveries_iff] at h
  unfold answer handle
  cases hplace : Endpoint.of? r with
  | none => exact (by decide : (404 : Nat) ≠ 503)
  | some place =>
    cases place with
    | health => exact (by decide : (200 : Nat) ≠ 503)
    | metrics =>
      have hstatus := s.status_counters r
      show (s.counters r).status ≠ 503
      omega
    | deliveries => exact absurd hplace h

/-- The response shows what kind of verdict there was, or that there was none. -/
structure Exchange.Matches (e : Exchange) : Prop where
  accepted_iff : e.verdict? = some .accepted ↔ e.request.IsDelivery ∧ e.response.status = 200
  outage_iff : e.verdict? = some (.rejected .storeUnavailable) ↔ e.response.status = 503
  refused_iff : (∃ v ∈ Verdict.refusals, e.verdict? = some v) ↔
    e.request.IsDelivery ∧ e.response.status = 401

theorem matches_of_verdict {e : Exchange} {verdict : Verdict} (hr : e.request.IsDelivery)
    (hverdict : e.verdict? = some verdict) (hresponse : e.response = .ofVerdict verdict) :
    e.Matches := by
  have htells := Response.tells_ofVerdict verdict
  rw [← hresponse] at htells
  constructor <;> simp only [hverdict, hr, true_and, Option.some.injEq]
  case accepted_iff => exact htells.ok_iff.symm
  case outage_iff => exact htells.outage_iff.symm
  case refused_iff => rw [htells.refusal_iff, ← Verdict.mem_refusals, exists_eq_right']

/-- Without a verdict, a delivery is not answered as if it had one. -/
theorem matches_of_no_verdict {e : Exchange} (hverdict : e.verdict? = none)
    (houtage : e.response.status ≠ 503)
    (hdelivery : e.request.IsDelivery → e.response.status = 413 ∨ e.response.status = 400) :
    e.Matches := by
  constructor <;> simp only [hverdict]
  case accepted_iff =>
    refine ⟨nofun, fun ⟨hr, hstatus⟩ => ?_⟩
    have := hdelivery hr
    omega
  case outage_iff => exact ⟨nofun, fun hstatus => absurd hstatus houtage⟩
  case refused_iff =>
    refine ⟨fun ⟨_, _, hv⟩ => (nomatch hv), fun ⟨hr, hstatus⟩ => ?_⟩
    have := hdelivery hr
    omega

theorem matches_exchange (s : Receiver σ) (r : Request) (now : Instant) :
    (Exchange.mk r (s.verdict? r now) (s.answer r now)).Matches := by
  by_cases hr : r.IsDelivery
  · cases hcontent : r.content with
    | ok body =>
      have hverdict := s.verdict?_of_content hr hcontent now
      exact matches_of_verdict hr hverdict (answer_of_verdict? hverdict)
    | error fault =>
      have hanswer : s.answer r now = unreadable fault :=
        congrArg (fun p => p.2.1) (s.handle_of_unreadable hr hcontent now)
      have hstatus := status_unreadable fault
      rw [← hanswer] at hstatus
      refine matches_of_no_verdict (s.handle_of_unread (Or.inr ⟨fault, hcontent⟩) now).2 ?_
        fun _ => hstatus
      show (s.answer r now).status ≠ 503
      omega
  · exact matches_of_no_verdict (s.handle_of_not_isDelivery hr now).2
      (s.status_of_not_isDelivery hr now) fun hr' => absurd hr' hr

/-! ## Runs -/

theorem matches_of_mem_exchanges {s : Receiver σ} {requests : List (Request × Instant)}
    {e : Exchange} (h : e ∈ s.exchanges requests) : e.Matches := by
  induction requests generalizing s with
  | nil => cases h
  | cons request requests ih =>
    obtain ⟨r, now⟩ := request
    rcases List.mem_cons.mp h with rfl | h
    · exact s.matches_exchange r now
    · exact ih h

/-- A verdict is counted as often as it is reached. -/
theorem count_after (s : Receiver σ) (requests : List (Request × Instant)) (verdict : Verdict) :
    (s.after requests).metrics.verdicts.count verdict = s.metrics.verdicts.count verdict +
      (s.exchanges requests).countP fun e => e.verdict? = some verdict := by
  induction requests generalizing s with
  | nil => rfl
  | cons request requests ih =>
    obtain ⟨r, now⟩ := request
    rw [after, exchanges, ih, List.countP_cons]
    rcases s.handle_cases r now with ⟨reached, took, hverdict, hmetrics⟩ | ⟨hnone, hsame⟩
    · rw [hmetrics, hverdict, Metrics.record, Tally.count_add]
      simp only [Option.some.injEq, decide_eq_true_eq, eq_comm (a := reached)]
      omega
    · rw [hsame, hnone]
      simp

/-- A latency is observed for each verdict. -/
theorem latency_after (s : Receiver σ) (requests : List (Request × Instant)) :
    (s.after requests).metrics.latency.count = s.metrics.latency.count +
      (s.exchanges requests).countP fun e => e.verdict?.isSome := by
  induction requests generalizing s with
  | nil => rfl
  | cons request requests ih =>
    obtain ⟨r, now⟩ := request
    rw [after, exchanges, ih, List.countP_cons]
    rcases s.handle_cases r now with ⟨reached, took, hverdict, hmetrics⟩ | ⟨hnone, hsame⟩
    · rw [hmetrics, hverdict, Metrics.record, Histogram.count_observe]
      simp
      omega
    · rw [hsame, hnone]
      simp

/-- Of different verdicts, the numbers of exchanges add up. -/
theorem sum_countP {verdicts : List Verdict} (h : verdicts.Nodup) (log : List Exchange) :
    (verdicts.map fun v => log.countP fun e => e.verdict? = some v).sum =
      log.countP fun e => ∃ v ∈ verdicts, e.verdict? = some v := by
  induction verdicts with
  | nil => simp
  | cons v verdicts ih =>
    obtain ⟨hnot, hrest⟩ := List.nodup_cons.mp h
    have hsplit := List.countP_eq_countP_filter_add log
      (fun e => ∃ w ∈ v :: verdicts, e.verdict? = some w) fun e => decide (e.verdict? = some v)
    rw [List.countP_filter, List.countP_filter] at hsplit
    rw [List.map_cons, List.sum_cons, ih hrest, hsplit]
    simp only [List.mem_cons, exists_eq_or_imp]
    congr 1
    · refine List.countP_congr fun e _ => ?_
      simp only [Bool.and_eq_true, decide_eq_true_eq]
      exact ⟨fun hv => ⟨Or.inl hv, hv⟩, And.right⟩
    · refine List.countP_congr fun e _ => ?_
      simp only [Bool.and_eq_true, Bool.not_eq_true', decide_eq_true_eq, decide_eq_false_iff_not]
      refine ⟨fun ⟨w, hw, hverdict⟩ => ⟨Or.inr ⟨w, hw, hverdict⟩, fun hv => hnot ?_⟩,
        fun ⟨hany, hne⟩ => hany.resolve_left hne⟩
      rw [hverdict] at hv
      exact Option.some.inj hv ▸ hw

/-- The counters account for what was answered. -/
structure Accounts (m : Metrics) (log : List Exchange) : Prop where
  accepted : m.counter "accepted" =
    log.countP fun e => e.request.IsDelivery ∧ e.response.status = 200
  outages : m.counter "store-unavailable" = log.countP fun e => e.response.status = 503
  refused : (Verdict.refusals.map fun v => m.counter v.label).sum =
    log.countP fun e => e.request.IsDelivery ∧ e.response.status = 401
  each : ∀ verdict : Verdict, m.counter verdict.label =
    log.countP fun e => e.verdict? = some verdict
  observed : m.latency.count = (Verdict.all.map fun v => m.counter v.label).sum

theorem accounts_after {s : Receiver σ} (h : s.metrics = .zero)
    (requests : List (Request × Instant)) :
    Accounts (s.after requests).metrics (s.exchanges requests) := by
  have heach : ∀ verdict : Verdict, (s.after requests).metrics.counter verdict.label =
      (s.exchanges requests).countP fun e => e.verdict? = some verdict := by
    intro verdict
    rw [Metrics.counter_label, count_after, h]
    exact Nat.zero_add _
  have hsum : ∀ verdicts : List Verdict, verdicts.Nodup →
      (verdicts.map fun v => (s.after requests).metrics.counter v.label).sum =
        (s.exchanges requests).countP fun e => ∃ v ∈ verdicts, e.verdict? = some v := by
    intro verdicts hnodup
    rw [← sum_countP hnodup]
    exact congrArg List.sum (List.map_congr_left fun v _ => heach v)
  have hmatches : ∀ e ∈ s.exchanges requests, e.Matches := fun e he => matches_of_mem_exchanges he
  constructor
  case each => exact heach
  case accepted =>
    refine (heach .accepted).trans (List.countP_congr fun e he => ?_)
    simp only [decide_eq_true_eq]
    exact (hmatches e he).accepted_iff
  case outages =>
    refine (heach (.rejected .storeUnavailable)).trans (List.countP_congr fun e he => ?_)
    simp only [decide_eq_true_eq]
    exact (hmatches e he).outage_iff
  case refused =>
    refine (hsum _ (by decide)).trans (List.countP_congr fun e he => ?_)
    simp only [decide_eq_true_eq]
    exact (hmatches e he).refused_iff
  case observed =>
    rw [hsum _ (by decide), latency_after, h]
    refine (Nat.zero_add _).trans (List.countP_congr fun e _ => ?_)
    simp only [decide_eq_true_eq, Verdict.mem_all, true_and, Option.isSome_iff_exists]

/-- From the start on, every delivery is counted once, under its verdict. Requests for other places
and requests whose body is not read leave the receiver as it is and do not ask the store, of whatever
kind it is. -/
theorem every_delivery_counted_once (σ : Type) [NonceStore σ] :
    (∀ (s : Receiver σ) (requests : List (Request × Instant)), s.metrics = .zero →
      Accounts (s.after requests).metrics (s.exchanges requests)) ∧
    (∀ (s : Receiver σ) (r : Request) (now : Instant),
      ¬ r.IsDelivery ∨ (∃ fault, r.content = .error fault) → (s.handle r now).1 = s) ∧
    (∀ (s : Receiver (Traffic.Recorded σ)) (r : Request) (now : Instant),
      ¬ r.IsDelivery ∨ (∃ fault, r.content = .error fault) →
      (s.handle r now).1.store.asked = s.store.asked) ∧
    ∀ r : Request, r.coding? = none → Request.bodyLimit < r.body.length →
      ∃ fault, r.content = .error fault := by
  refine ⟨fun s requests h => accounts_after h requests,
    fun s r now h => (s.handle_of_unread h now).1, ?_,
    fun r hcoding hbody => Request.content_of_long hcoding hbody⟩
  intro s r now h
  rw [(s.handle_of_unread h now).1]

/-- The sample message, a delivery without headers, one that cannot be read, and two requests that
are none. -/
def sampleRequests : List (Request × Instant) :=
  [ (signedSample, ⟨1757962690, 0⟩),
    (bare, ⟨1757962691, 0⟩),
    (mislabelled, ⟨1757962692, 0⟩),
    ({ method := "GET", target := "/health" }, ⟨1757962693, 0⟩),
    ({ method := "GET", target := "/webhook/swish" }, ⟨1757962694, 0⟩) ]

theorem verdicts_sampleRequests :
    (sample.exchanges sampleRequests).map Exchange.verdict? =
      [some .accepted, some (.rejected .missingHeader), none, none, none] :=
  List.cons_eq_cons.mpr ⟨verdict?_signedSample, by decide +kernel⟩

/-- Of five requests, one is counted as accepted and one for its lack of headers. -/
theorem every_delivery_counted_once_of_samples :
    (sample.after sampleRequests).metrics.counter "accepted" = 1 ∧
    (sample.after sampleRequests).metrics.counter "missing-header" = 1 ∧
    (sample.exchanges sampleRequests).countP (fun e =>
      e.request.IsDelivery ∧ e.response.status = 200) = 1 ∧
    (sample.handle mislabelled ⟨1757962690, 0⟩).1 = sample ∧
    ({ sample with store := (⟨.empty, []⟩ : Traffic.Recorded MemoryStore) }.handle
      { method := "GET", target := "/metrics" } ⟨1757962690, 0⟩).1.store.asked = [] := by
  obtain ⟨hcounts, hsame, hunasked, -⟩ := every_delivery_counted_once MemoryStore
  have haccounts := hcounts sample sampleRequests rfl
  have hcount : ∀ verdict : Verdict,
      (sample.after sampleRequests).metrics.counter verdict.label =
        [some .accepted, some (.rejected .missingHeader), none, none, none].countP
          fun v => v = some verdict := by
    intro verdict
    rw [haccounts.each, ← verdicts_sampleRequests, List.countP_map]
    rfl
  have haccepted : (sample.after sampleRequests).metrics.counter "accepted" = 1 :=
    (hcount .accepted).trans (by decide)
  refine ⟨haccepted, (hcount (.rejected .missingHeader)).trans (by decide),
    haccounts.accepted.symm.trans haccepted, ?_, ?_⟩
  · exact hsame _ _ _ (Or.inr ⟨.packed .gzipHeader, by decide +kernel⟩)
  · exact hunasked _ _ _ (Or.inl (by decide +kernel))

end Receiver

end WebhookGuard

import WebhookGuard.Proofs.Http.Request
import WebhookGuard.Proofs.Verifier.Expiry
import WebhookGuard.Receiver
import WebhookGuard.Store.Memory

/-
  What a receiver answers to a delivery. There are three responses to a delivery whose body is read,
  and the verdict selects one: acceptance, an outage of the store, or anything else. So two
  rejections that are not outages cannot be told apart, whatever receivers, stores, headers and
  bodies they come from (`answers_tell_no_reason`).

  A body is not read when the declared length or the body is over the limit, or when it is not
  compressed as it says. This is answered without a verdict, by the request alone.
-/
namespace WebhookGuard

/-- A request is for the place where deliveries go. -/
def Request.IsDelivery (r : Request) : Prop := r.method = "POST" ∧ r.path = utf8 "/webhook/swish"

instance (r : Request) : Decidable r.IsDelivery := inferInstanceAs (Decidable (_ ∧ _))

/-- No two places share a method and a path. -/
theorem Endpoint.of?_eq_some_iff {r : Request} {place : Endpoint} :
    Endpoint.of? r = some place ↔ r.method = place.method ∧ r.path = utf8 place.path := by
  constructor
  · intro h
    simpa using List.find?_some h
  · rintro ⟨hmethod, hpath⟩
    unfold of? all
    rw [hmethod, hpath]
    cases place <;> decide

theorem Endpoint.of?_eq_deliveries_iff {r : Request} :
    Endpoint.of? r = some .deliveries ↔ r.IsDelivery := of?_eq_some_iff

theorem Request.isDelivery_signed {secret : Bytes} {timestamp nonce : String} {body : Bytes} :
    (signed secret timestamp nonce body).IsDelivery := by
  refine ⟨rfl, ?_⟩
  unfold path
  rw [show (signed secret timestamp nonce body).target = "/webhook/swish" from rfl]
  decide +kernel

/-- The response to a delivery tells whether it was accepted and whether the store was out, and
nothing else. -/
structure Response.Tells (response : Response) (verdict : Verdict) : Prop where
  received_iff : response = ⟨200, [("content-type", "application/json")],
    "\x7b\"received\":true\x7d"⟩ ↔ verdict = .accepted
  ok_iff : response.status = 200 ↔ verdict = .accepted
  unavailable_iff : response = ⟨503, [("content-type", "application/json"), ("retry-after", "5")],
    "\x7b\"error\":\"webhook verification temporarily unavailable\"\x7d"⟩ ↔
      verdict = .rejected .storeUnavailable
  outage_iff : response.status = 503 ↔ verdict = .rejected .storeUnavailable
  refused_iff : response = ⟨401, [("content-type", "application/json")],
    "\x7b\"error\":\"webhook verification failed\"\x7d"⟩ ↔
      verdict ≠ .accepted ∧ verdict ≠ .rejected .storeUnavailable
  refusal_iff : response.status = 401 ↔
    verdict ≠ .accepted ∧ verdict ≠ .rejected .storeUnavailable

theorem Response.tells_ofVerdict (v : Verdict) : (Response.ofVerdict v).Tells v := by
  cases v with
  | accepted => constructor <;> decide
  | rejected reason => cases reason <;> constructor <;> decide

namespace Receiver

variable {σ : Type} [NonceStore σ]

/-- The response to a request. -/
def answer (s : Receiver σ) (r : Request) (now : Instant) : Response := (s.handle r now).2.1

/-- The verdict on the delivery that a request brings, if it brings one that is read. -/
def verdict? (s : Receiver σ) (r : Request) (now : Instant) : Option Verdict :=
  match Endpoint.of? r, r.content with
  | some .deliveries, .ok body => some (s.verifier.verify s.store ⟨body, r.headers, now⟩).verdict
  | _, _ => none

/-- A request brings a delivery that is rejected, and not for an outage of the store. -/
def Refuses (s : Receiver σ) (r : Request) (now : Instant) : Prop :=
  ∃ reason, s.verdict? r now = some (.rejected reason) ∧ reason ≠ .storeUnavailable

theorem verdict?_of_content (s : Receiver σ) {r : Request} {body : Bytes} (hr : r.IsDelivery)
    (h : r.content = .ok body) (now : Instant) :
    s.verdict? r now = some (s.verifier.verify s.store ⟨body, r.headers, now⟩).verdict := by
  unfold verdict?
  rw [Endpoint.of?_eq_deliveries_iff.mpr hr, h]

/-- The verdict alone decides what is answered. -/
theorem answer_of_verdict? {s : Receiver σ} {r : Request} {now : Instant} {verdict : Verdict}
    (h : s.verdict? r now = some verdict) : s.answer r now = .ofVerdict verdict := by
  unfold verdict? at h
  split at h
  · next body hplace hcontent =>
    obtain rfl := Option.some.inj h
    unfold answer handle
    rw [hplace]
    show (s.deliver r now).2.1 = _
    unfold deliver
    rw [hcontent]
  · cases h

theorem handle_of_unreadable (s : Receiver σ) {r : Request} {fault : BodyFault} (hr : r.IsDelivery)
    (h : r.content = .error fault) (now : Instant) :
    s.handle r now = (s, unreadable fault, []) := by
  unfold handle
  rw [Endpoint.of?_eq_deliveries_iff.mpr hr]
  show s.deliver r now = _
  unfold deliver
  rw [h]

/-- A refusal is always answered in the same way. -/
theorem answer_of_refuses {s : Receiver σ} {r : Request} {now : Instant} (h : s.Refuses r now) :
    s.answer r now = .refused := by
  obtain ⟨reason, hverdict, hreason⟩ := h
  rw [answer_of_verdict? hverdict]
  exact if_neg (by simpa [FailureReason.isRetriable] using hreason)

/-- Acceptance, an outage and a refusal have one response each, and all refusals have the same. A
body that is not read is answered by what is wrong with it and leaves the receiver as it is. -/
theorem answers_tell_no_reason :
    (∀ (σ : Type) [NonceStore σ] (s : Receiver σ) (r : Request) (now : Instant), r.IsDelivery →
      (∀ body, r.content = .ok body →
        (s.answer r now).Tells (s.verifier.verify s.store ⟨body, r.headers, now⟩).verdict) ∧
      ∀ fault, r.content = .error fault →
        s.answer r now = ⟨if fault = .tooLong then 413 else 400,
          [("content-type", "text/plain; charset=utf-8")], fault.message⟩ ∧
        (s.handle r now).1 = s) ∧
    (∀ (σ σ' : Type) [NonceStore σ] [NonceStore σ'] (s : Receiver σ) (s' : Receiver σ')
      (r r' : Request) (now now' : Instant), s.Refuses r now → s'.Refuses r' now' →
      s.answer r now = s'.answer r' now') ∧
    ∀ (r : Request) (declared : Option Nat), r.coding? = none →
      r.declaredLength = .ok declared → declared.getD 0 ≤ Request.bodyLimit →
      r.body.length ≤ Request.bodyLimit → r.content = .ok r.body := by
  refine ⟨?_, ?_, ?_⟩
  · intro σ _ s r now hr
    constructor
    · intro body hcontent
      rw [answer_of_verdict? (s.verdict?_of_content hr hcontent now)]
      exact Response.tells_ofVerdict _
    · intro fault hcontent
      unfold answer
      rw [s.handle_of_unreadable hr hcontent now]
      refine ⟨?_, rfl⟩
      cases fault <;> rfl
  · intro σ σ' _ _ s s' r r' now now' h h'
    rw [answer_of_refuses h, answer_of_refuses h']
  · exact fun r declared hcoding hdeclared hlimit hbody =>
      Request.content_of_uncompressed hcoding hdeclared hlimit hbody

/-! ## Samples -/

/-- A receiver of one process that has been told no more than the secret. -/
def sample : Receiver MemoryStore where
  verifier := .sample
  store := .empty
  backendName := "in-memory"

/-- A receiver with another secret, over a table in a file. -/
def otherSample : Receiver TableStore where
  verifier := { options := { secret := [108] }, sound := by decide }
  store := .empty
  backendName := "sqlite"

/-- The sample message on its way. -/
def signedSample : Request := .signed Verifier.sample.options.secret "1757962690" "n" []

theorem isDelivery_signedSample : signedSample.IsDelivery := Request.isDelivery_signed

theorem content_signedSample : signedSample.content = .ok [] :=
  Request.content_signed (by decide)

theorem verdict?_signedSample :
    sample.verdict? signedSample ⟨1757962690, 0⟩ = some .accepted := by
  have hheaders : signedSample.headers = (Delivery.sample ⟨1757962690, 0⟩).headers :=
    Request.headers_signed (by decide) (by decide)
  have haccepted : (Verifier.sample.verify MemoryStore.empty
      (.sample ⟨1757962690, 0⟩)).verdict = .accepted :=
    (Verifier.authentic_sample _).verify_accepted (by decide) (by decide) rfl
  rw [sample.verdict?_of_content isDelivery_signedSample content_signedSample, hheaders]
  exact congrArg some haccepted

/-- A request without headers. -/
def bare : Request := { method := "POST", target := "/webhook/swish" }

/-- A request with three headers that mean nothing. -/
def garbled : Request where
  method := "POST"
  target := "/webhook/swish"
  fields := HeaderRole.all.map fun role => ⟨role.defaultName, utf8 "x"⟩
  body := utf8 "x"

/-- The sample message is accepted. A request without headers and one with a timestamp that cannot
be read are answered alike, although the secrets, the stores and the reasons differ. -/
theorem answers_tell_no_reason_of_samples :
    sample.answer signedSample ⟨1757962690, 0⟩ = .received ∧
    sample.verdict? bare ⟨1757962690, 0⟩ = some (.rejected .missingHeader) ∧
    otherSample.verdict? garbled ⟨0, 0⟩ = some (.rejected .invalidTimestamp) ∧
    sample.answer bare ⟨1757962690, 0⟩ = otherSample.answer garbled ⟨0, 0⟩ := by
  obtain ⟨htells, hsame, -⟩ := answers_tell_no_reason
  have hbare : sample.verdict? bare ⟨1757962690, 0⟩ = some (.rejected .missingHeader) := by
    decide +kernel
  have hgarbled : otherSample.verdict? garbled ⟨0, 0⟩ = some (.rejected .invalidTimestamp) := by
    decide +kernel
  have haccepted := verdict?_signedSample
  rw [sample.verdict?_of_content isDelivery_signedSample content_signedSample] at haccepted
  refine ⟨?_, hbare, hgarbled, ?_⟩
  · have htold := (htells _ sample _ ⟨1757962690, 0⟩ isDelivery_signedSample).1 _
      content_signedSample
    exact htold.received_iff.mpr (Option.some.inj haccepted)
  · exact hsame _ _ _ _ _ _ _ _ ⟨_, hbare, by decide⟩ ⟨_, hgarbled, by decide⟩

/-- A request that is labelled as compressed, which its body is not. -/
def mislabelled : Request where
  method := "POST"
  target := "/webhook/swish"
  fields := [⟨"content-encoding", utf8 "gzip"⟩]
  body := utf8 "\x7b\"id\":\"abc123\",\"amount\":100\x7d"

/-- The body keeps the limit, and still the request is answered without a verdict. -/
theorem mislabelled_not_refused :
    mislabelled.IsDelivery ∧ mislabelled.body.length ≤ Request.bodyLimit ∧
      (sample.answer mislabelled ⟨1757962690, 0⟩).status = 400 := by
  decide +kernel

end Receiver

end WebhookGuard

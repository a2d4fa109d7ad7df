import WebhookGuard.Http.Request
import WebhookGuard.Http.Response
import WebhookGuard.Metrics.Exposition
import WebhookGuard.Text.Opening
import WebhookGuard.Verifier

/-
  Receivers. A receiver answers requests at three places: senders bring deliveries, monitors ask
  whether it is up, and collectors read the counters. Only a delivery whose body can be read asks
  the verifier, reaches the store and moves a counter. Who may read the counters is decided by the
  settings and the request alone.
-/
namespace WebhookGuard

/-- The places where a receiver answers. -/
inductive Endpoint where
  | health
  | metrics
  | deliveries
deriving DecidableEq, Repr

namespace Endpoint

/-- The method of a place. -/
def method : Endpoint → String
  | health | metrics => "GET"
  | deliveries => "POST"

/-- The path of a place. -/
def path : Endpoint → String
  | health => "/health"
  | metrics => "/metrics"
  | deliveries => "/webhook/swish"

/-- All places. -/
def all : List Endpoint := [health, metrics, deliveries]

/-- The place that a request is for. -/
def of? (r : Request) : Option Endpoint :=
  all.find? fun place => r.method == place.method && r.path == utf8 place.path

end Endpoint

/-- Whether a request may read the counters. -/
inductive Access where
  | granted
  /-- A token is asked for, and the request does not bring it. -/
  | unauthorized
  /-- There is no token that would open the counters. -/
  | forbidden
deriving DecidableEq, Repr

/-- The token that a request brings: what follows the word for it in the first value. -/
def Request.token? (r : Request) : Option Bytes := do
  let value ← r.value? "authorization"
  let text ← visibleText? value
  let token ← Text.after? "Bearer ".toList text.toList
  return utf8 (String.ofList token)

/-- Whether a request may read the counters, given the token and whether everyone may where there
is no token. -/
def Access.of (token : Option Bytes) (isPublic : Bool) (r : Request) : Access :=
  match token with
  | some token =>
    match r.token? with
    | some given => if sameSecret given token then granted else unauthorized
    | none => unauthorized
  | none => if isPublic then granted else forbidden

/-- Whether verification reads a header of this name under the options. -/
def Options.reads (o : Options) (name : String) : Bool :=
  HeaderRole.all.any fun role => (o.names role).any fun other => Text.sameUpToCase other name

/-- What is reported of the values that verification would read but that are not visible. -/
def Request.skipped (r : Request) (o : Options) : List Event :=
  r.fields.filterMap fun field =>
    if (visibleText? field.value).isNone && o.reads field.name then
      some (.headerSkipped (Text.lower field.name) field.value.length)
    else none

/-- A receiver over a store. -/
structure Receiver (σ : Type) where
  verifier : Verifier
  store : σ
  /-- The name of the backend that monitors are told. -/
  backendName : String
  /-- The token for the counters. -/
  metricsToken : Option Bytes := none
  /-- Whether everyone may read the counters where there is no token. -/
  publicMetrics : Bool := false
  metrics : Metrics := .zero

namespace Receiver

variable {σ : Type}

/-- The response to a monitor. -/
def health (s : Receiver σ) : Response :=
  .ofObject 200 [("nonceStore", Text.Json.text s.backendName),
    ("service", Text.Json.text "swish-webhook-server"), ("status", Text.Json.text "ok")]

/-- The response to a collector. -/
def counters (s : Receiver σ) (r : Request) : Response :=
  let denied (status : Nat) (error message : String) : Response :=
    .ofObject status [("error", Text.Json.text error), ("message", Text.Json.text message)]
  match Access.of s.metricsToken s.publicMetrics r with
  | .granted => .withBody 200 Metrics.expositionType s.metrics.exposition
  | .unauthorized => denied 401 "unauthorized" "Valid Bearer token required for /metrics"
  | .forbidden =>
    denied 403 "forbidden" "Set METRICS_TOKEN or SWISH_PUBLIC_METRICS=true to access /metrics"

/-- What is reported of a verdict beside what verification reports. -/
def acknowledgement (v : Verdict) (body : Bytes) : List Event :=
  match v with
  | .accepted => [.acknowledged body.length]
  | .rejected _ => []

/-- The response to a delivery whose body is not read. -/
def unreadable (fault : BodyFault) : Response :=
  let status := match fault with
    | .tooLong => 413
    | .unknownLength | .packed _ => 400
  .withBody status "text/plain; charset=utf-8" fault.message

/-- Verifies the delivery that a request brings. -/
def deliver [NonceStore σ] (s : Receiver σ) (r : Request) (now : Instant) :
    Receiver σ × Response × List Event :=
  match r.content with
  | .error fault => (s, unreadable fault, [])
  | .ok body =>
    let outcome := s.verifier.verify s.store ⟨body, r.headers, now⟩
    ({ s with
        store := outcome.store
        metrics := s.metrics.record outcome.verdict outcome.waited },
      .ofVerdict outcome.verdict,
      r.skipped s.verifier.options ++ outcome.events ++ acknowledgement outcome.verdict body)

/-- Answers a request: the receiver afterwards, the response, and what was reported. -/
def handle [NonceStore σ] (s : Receiver σ) (r : Request) (now : Instant) :
    Receiver σ × Response × List Event :=
  match Endpoint.of? r with
  | none => (s, .notFound, [])
  | some .health => (s, s.health, [])
  | some .metrics => (s, s.counters r, [])
  | some .deliveries => s.deliver r now

end Receiver

end WebhookGuard

import WebhookGuard.Backend
import WebhookGuard.Options
import WebhookGuard.Settings.Variable

/-
  Settings of a server. Every setting has a variable of its own; the address of a remote store has
  three, of which the first that is set counts. The variables are read in a fixed order, and the
  first that cannot be read is reported.
-/
namespace WebhookGuard

open WebhookGuard.Text

/-- How a server is set up. -/
structure Settings where
  options : Options
  backend : Backend
  /-- The token that readers of the counters have to present. -/
  metricsToken : Option String
  /-- Whether the counters are open to everyone when there is no token. -/
  publicMetrics : Bool
  tcpPort : Nat
deriving DecidableEq, Repr

namespace Settings

/-- The variables for the address of a remote store, the most important first. -/
def addressVariables : List String := ["SWISH_REDIS", "SWISH_REDIS_CONN", "REDIS_URL"]

/-- The TCP port unless the settings say otherwise. -/
def defaultTcpPort : Nat := 8080

/-- The greatest number of seconds or milliseconds that a variable can give. -/
def longestCount : Nat := 18446744073709551615

/-- The greatest number of a TCP port. -/
def greatestTcpPort : Nat := 65535

/-- The encoding of signatures that the variables ask for. -/
def encoding (source : Source) : Except ConfigError SignatureEncoding :=
  let name := "SWISH_SIGNATURE_ENCODING"
  match source.value? name with
  | none => .ok .auto
  | some raw =>
    match SignatureEncoding.ofSetting raw with
    | .ok e => .ok e
    | .error _ => .error (.invalidValue name raw)

/-- The backend that the variables ask for: a remote store if there is an address, else a table if
there is a path, else the store of this process. -/
def backendOf (source : Source) (sweepInterval : Duration) : Backend :=
  match source.firstValue? addressVariables with
  | some address =>
    .remote address ((source.value? "SWISH_REDIS_PREFIX").getD RemoteStore.defaultKeyStart)
  | none =>
    match source.value? "SWISH_NONCE_DB_PATH" with
    | some path => .table path sweepInterval
    | none => .memory sweepInterval

/-- The settings that the variables give, or the first thing wrong with them. -/
def read (source : Source) : Except ConfigError Settings := do
  let some secret := source.value? "SWISH_WEBHOOK_SECRET" | .error .missingSecret
  let base : Options := { secret := utf8 secret }
  let skew ← source.count? "SWISH_ALLOWED_SKEW_SECS" longestCount
  let age ← source.count? "SWISH_MAX_MESSAGE_AGE_SECS" longestCount
  let timeout ← source.count? "SWISH_STORE_TIMEOUT_MS" longestCount
  let strict ← source.flag "SWISH_STRICT_TIMESTAMPS"
  let encoding ← encoding source
  let sweep ← source.count? "SWISH_NONCE_SWEEP_SECS" longestCount
  let publicMetrics ← source.flag "SWISH_PUBLIC_METRICS"
  let tcpPort ← source.count? "PORT" greatestTcpPort
  return {
    options := { base with
      allowedClockSkew := (skew.map Duration.ofSecs).getD base.allowedClockSkew
      maxMessageAge := (age.map Duration.ofSecs).getD base.maxMessageAge
      storeTimeout := (timeout.map Duration.ofMillis).getD base.storeTimeout
      signatureHeader := (source.value? "SWISH_SIGNATURE_HEADER").getD base.signatureHeader
      timestampHeader := (source.value? "SWISH_TIMESTAMP_HEADER").getD base.timestampHeader
      nonceHeader := (source.value? "SWISH_NONCE_HEADER").getD base.nonceHeader
      timestampPolicy := if strict then .unixSecondsStrict else .flexible
      signatureEncoding := encoding }
    backend := backendOf source ((sweep.map Duration.ofSecs).getD Backend.defaultSweepInterval)
    metricsToken := source.value? "METRICS_TOKEN"
    publicMetrics
    tcpPort := tcpPort.getD defaultTcpPort }

/-- The description of settings, which keeps addresses and the token to itself. -/
def description (s : Settings) : String :=
  let token := match s.metricsToken with
    | none => "None"
    | some _ => "Some(" ++ quoted "[REDACTED]" ++ ")"
  record "ServerConfig"
    [ ("verifier", s.options.description), ("nonce_backend", quoted s.backend.name),
      ("metrics_token", token), ("public_metrics", toString s.publicMetrics),
      ("port", toString s.tcpPort) ]
    false

end Settings

end WebhookGuard

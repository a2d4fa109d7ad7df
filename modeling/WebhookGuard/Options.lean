import WebhookGuard.Bytes
import WebhookGuard.Event
import WebhookGuard.Headers.Basic
import WebhookGuard.Headers.Role
import WebhookGuard.Signature.Encoding
import WebhookGuard.Text.Quoted
import WebhookGuard.Timestamp.Policy

/-
  Options of a verifier. They are checked once, before the first delivery: the secret must not be
  blank, and no duration may be zero; the two that clock readings are compared with must also be
  short enough to compute with.
-/
namespace WebhookGuard

open WebhookGuard.Text

/-- How deliveries are verified. -/
structure Options where
  /-- The secret shared with the sender. -/
  secret : Bytes
  /-- How far the timestamp may be from the clock, either way. -/
  allowedClockSkew : Duration := .ofSecs 300
  /-- How far the timestamp may be behind the clock; also the least time a nonce is kept. -/
  maxMessageAge : Duration := .ofSecs 600
  /-- The name tried first for the signature. -/
  signatureHeader : String := HeaderRole.signature.defaultName
  /-- The name tried first for the timestamp. -/
  timestampHeader : String := HeaderRole.timestamp.defaultName
  /-- The name tried first for the nonce. -/
  nonceHeader : String := HeaderRole.nonce.defaultName
  timestampPolicy : TimestampPolicy := .flexible
  signatureEncoding : SignatureEncoding := .auto
  /-- How long the store may take to decide a claim. -/
  storeTimeout : Duration := .ofSecs 2
deriving DecidableEq, Repr

/-- The longest duration that a clock reading can be compared with. -/
def longestDuration : Duration := .ofMillis 9223372036854775807

/-- What is wrong with a duration that must only be some time. -/
def DurationSetting.zeroFault? (setting : DurationSetting) (d : Duration) : Option ConfigError :=
  if d = .zero then some (.invalidDuration setting .zero) else none

/-- What is wrong with a duration that clock readings are compared with. -/
def DurationSetting.spanFault? (setting : DurationSetting) (d : Duration) : Option ConfigError :=
  (setting.zeroFault? d).or
    (if longestDuration < d then some (.invalidDuration setting .tooLong) else none)

namespace Options

/-- The configured name for a role. -/
def header (o : Options) : HeaderRole → String
  | .signature => o.signatureHeader
  | .timestamp => o.timestampHeader
  | .nonce => o.nonceHeader

/-- The names that a role is looked for under, in order. -/
def names (o : Options) (role : HeaderRole) : List String :=
  o.header role :: role.aliases

/-- The first thing wrong with the options. -/
def fault? (o : Options) : Option ConfigError :=
  if o.secret.all isBlankByte then some .missingSecret
  else (DurationSetting.allowedClockSkew.spanFault? o.allowedClockSkew).or
    ((DurationSetting.maxMessageAge.spanFault? o.maxMessageAge).or
      (DurationSetting.storeTimeout.zeroFault? o.storeTimeout))

/-- What is reported when a verifier is built from sound options. -/
def warnings (o : Options) : List Event :=
  if o.maxMessageAge < o.allowedClockSkew then
    [.skewExceedsAge o.allowedClockSkew o.maxMessageAge]
  else []

/-- The description of the options, which keeps the secret to itself. -/
def description (o : Options) : String :=
  record "VerifierOptions"
    [ ("shared_secret", quoted "[REDACTED]"),
      ("allowed_clock_skew", o.allowedClockSkew.text),
      ("max_message_age", o.maxMessageAge.text),
      ("signature_header", quoted o.signatureHeader),
      ("timestamp_header", quoted o.timestampHeader),
      ("nonce_header", quoted o.nonceHeader),
      ("timestamp_policy", o.timestampPolicy.label),
      ("signature_encoding", o.signatureEncoding.label),
      ("store_timeout", o.storeTimeout.text) ]
    false

end Options

end WebhookGuard

import WebhookGuard.Text.Named

/-
  Timestamp policies. Sender and receiver have to agree on one: a strict receiver turns away
  everything but plain Unix seconds.
-/
namespace WebhookGuard

/-- Which written forms of a timestamp are accepted. -/
inductive TimestampPolicy where
  /-- Unix seconds, Unix milliseconds or a calendar date. -/
  | flexible
  /-- Unix seconds only. -/
  | unixSecondsStrict
deriving DecidableEq, Repr

namespace TimestampPolicy

/-- The name in settings and messages. -/
def name : TimestampPolicy → String
  | flexible => "flexible"
  | unixSecondsStrict => "unix-seconds-strict"

/-- The name in descriptions of options. -/
def label : TimestampPolicy → String
  | flexible => "Flexible"
  | unixSecondsStrict => "UnixSecondsStrict"

instance : Text.Named TimestampPolicy where
  all := [flexible, unixSecondsStrict]
  name := name

end TimestampPolicy

end WebhookGuard

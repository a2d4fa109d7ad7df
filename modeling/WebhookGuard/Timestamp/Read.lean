import WebhookGuard.Timestamp.Calendar
import WebhookGuard.Timestamp.Policy

/-
  Reading a timestamp. Whatever stands in the header is untrusted: it either names an instant in
  one of the accepted forms or it is no timestamp. A text that has the form of a number is never
  read as a date, also when the number names no instant.
-/
namespace WebhookGuard.Timestamp

/-- The instant that a timestamp names under the flexible policy. -/
def flexible? (cs : List Char) : Option Instant :=
  match Numeral.ofChars? cs with
  | some n => n.instant?
  | none => calendar? cs

/-- The instant that a timestamp names under a policy. -/
def read? (policy : TimestampPolicy) (raw : String) : Option Instant :=
  match policy with
  | .unixSecondsStrict => strict? raw.toList
  | .flexible => flexible? raw.toList

end WebhookGuard.Timestamp

import WebhookGuard.Error
import WebhookGuard.Verdict

/-
  Log events. Each event is a value of its own, so what an operation reports can be reasoned about;
  its level, message and fields are read off here. No event carries a secret, a signature or more
  than the start of a nonce.
-/
namespace WebhookGuard

/-- How serious an event is. -/
inductive Level where
  | error
  | warn
  | info
  | debug
deriving DecidableEq, Repr

/-- The name of a level in logs. -/
def Level.name : Level → String
  | error => "ERROR"
  | warn => "WARN"
  | info => "INFO"
  | debug => "DEBUG"

/-- The value of a field of an event. -/
inductive FieldValue where
  | text (value : String)
  | flag (value : Bool)
  | count (value : Nat)
deriving DecidableEq, Repr

/-- What is reported. -/
inductive Event where
  /-- Future-dated messages can be held longer than their age allows. -/
  | skewExceedsAge (skew age : Duration)
  /-- A delivery lacks a header; for each role, whether it was found. -/
  | missingHeader (signature timestamp nonce : Bool)
  /-- A delivery with this start of its nonce was rejected. -/
  | rejected (reason : FailureReason) (nonceStart : String)
  /-- The store did not decide a claim. -/
  | claimFailed (error : StoreError)
  /-- A delivery with this start of its nonce was accepted. -/
  | verified (nonceStart : String)
  /-- A sweep removed so many records. -/
  | purged (count : Nat)
  /-- A sweep failed. -/
  | sweepFailed (error : StoreError)
  /-- The sweeper found its store gone. -/
  | storeDropped
  /-- A connection to the remote store was opened. -/
  | connectionOpened
  /-- The file of the table at this location is still open to others. -/
  | fileShared (location : String) (fault : PathFault)
  /-- A header that verification reads was passed over for its value of so many bytes. -/
  | headerSkipped (name : String) (size : Nat)
  /-- A delivery with a body of so many bytes was acknowledged. -/
  | acknowledged (size : Nat)
deriving DecidableEq, Repr

namespace Event

/-- How serious the event is. -/
def level : Event → Level
  | skewExceedsAge .. | missingHeader .. | rejected .. | sweepFailed _ | fileShared .. => .warn
  | claimFailed _ => .error
  | purged _ | acknowledged _ => .info
  | verified _ | storeDropped | connectionOpened | headerSkipped .. => .debug

/-- The fixed text of the event. -/
def message : Event → String
  | skewExceedsAge .. =>
    "clock skew exceeds max message age; future-dated messages are held past max_message_age"
  | missingHeader .. => "webhook rejected: missing header"
  | rejected .. => "webhook rejected"
  | claimFailed _ => "nonce store claim failed"
  | verified _ => "webhook verified"
  | purged _ => "purged expired nonces"
  | sweepFailed _ => "nonce sweep failed"
  | storeDropped => "nonce store dropped, stopping sweeper"
  | connectionOpened => "opened redis nonce store connection"
  | fileShared .. => "failed to set nonce database file permissions to 0600"
  | headerSkipped .. => "skipping verification header with non-visible-ASCII value"
  | acknowledged _ => "swish webhook accepted"

/-- What the event says beside its text. -/
def fields : Event → List (String × FieldValue)
  | skewExceedsAge skew age =>
    [("allowed_clock_skew_secs", .count skew.secs), ("max_message_age_secs", .count age.secs)]
  | missingHeader signature timestamp nonce =>
    [("has_signature", .flag signature), ("has_timestamp", .flag timestamp),
      ("has_nonce", .flag nonce)]
  | rejected reason nonceStart => [("reason", .text reason.name), ("nonce", .text nonceStart)]
  | claimFailed error | sweepFailed error => [("error", .text error.message)]
  | verified nonceStart => [("nonce", .text nonceStart)]
  | purged count => [("purged", .count count)]
  | storeDropped | connectionOpened => []
  | fileShared location fault => [("path", .text location), ("error", .text fault.message)]
  | headerSkipped name size => [("header", .text name), ("value_len", .count size)]
  | acknowledged size => [("bytes", .count size)]

end Event

/-- The part of a nonce that logs may show. -/
def nonceStart (nonce : String) : String :=
  String.ofList (nonce.toList.take 8)

end WebhookGuard

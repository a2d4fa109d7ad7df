import WebhookGuard.Text.Json
import WebhookGuard.Text.Named
import WebhookGuard.Text.Record

/-
  Verdicts. A delivery is accepted or rejected for one of seven reasons. The names of the reasons
  are stable: senders, logs and counters rely on them.
-/
namespace WebhookGuard

/-- Why a delivery was rejected. -/
inductive FailureReason where
  | missingHeader
  | invalidTimestamp
  | clockSkew
  | messageTooOld
  | replay
  | signatureMismatch
  | storeUnavailable
deriving DecidableEq, Repr

namespace FailureReason

/-- The stable name. -/
def name : FailureReason → String
  | missingHeader => "missing-header"
  | invalidTimestamp => "invalid-timestamp"
  | clockSkew => "clock-skew"
  | messageTooOld => "message-too-old"
  | replay => "replay"
  | signatureMismatch => "signature-mismatch"
  | storeUnavailable => "store-unavailable"

/-- The name in descriptions. -/
def label : FailureReason → String
  | missingHeader => "MissingHeader"
  | invalidTimestamp => "InvalidTimestamp"
  | clockSkew => "ClockSkew"
  | messageTooOld => "MessageTooOld"
  | replay => "Replay"
  | signatureMismatch => "SignatureMismatch"
  | storeUnavailable => "StoreUnavailable"

/-- All reasons. -/
def all : List FailureReason :=
  [ missingHeader, invalidTimestamp, clockSkew, messageTooOld, replay, signatureMismatch,
    storeUnavailable ]

instance : Text.Named FailureReason where
  all := all
  name := name

/-- Only an outage of the store is worth another try; every other verdict is final. -/
def isRetriable (reason : FailureReason) : Bool :=
  reason == storeUnavailable

end FailureReason

/-- The outcome of verifying a delivery. -/
inductive Verdict where
  | accepted
  | rejected (reason : FailureReason)
deriving DecidableEq, Repr

namespace Verdict

/-- Whether the delivery was accepted. -/
def isSuccess : Verdict → Bool
  | accepted => true
  | rejected _ => false

/-- The reason of a rejection. -/
def reason? : Verdict → Option FailureReason
  | accepted => none
  | rejected reason => some reason

/-- The verdict as an object of JSON. -/
def json : Verdict → String
  | accepted => Text.Json.object [("success", "true")]
  | rejected reason =>
    Text.Json.object [("success", "false"), ("reason", Text.Json.text reason.name)]

/-- The description of a verdict. -/
def description (v : Verdict) : String :=
  let reason := match v.reason? with
    | none => "None"
    | some r => "Some(" ++ r.label ++ ")"
  Text.record "VerifyResult" [("success", toString v.isSuccess), ("reason", reason)] false

end Verdict

end WebhookGuard

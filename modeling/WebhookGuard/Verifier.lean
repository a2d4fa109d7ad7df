import WebhookGuard.Options
import WebhookGuard.Signature.Sign
import WebhookGuard.Store.Basic
import WebhookGuard.Timestamp.Read

/-
  Verification of a delivery. The checks run in a fixed order and the first that fails decides:
  the headers, the timestamp, its age, its distance from the clock, the signature, and last the
  nonce. The store is asked only about deliveries that have proved knowledge of the secret, so
  nobody else can use up a nonce.

  Verification is in two halves. `Verifier.check` says without any store whether a delivery is
  refused or which claim it makes, and `Verifier.settle` turns the answer to that claim into a
  verdict.
-/
namespace WebhookGuard

/-- A verifier: options with nothing wrong with them. -/
structure Verifier where
  options : Options
  sound : options.fault? = none

/-- A delivery as it was received, and the clock reading at its start. -/
structure Delivery where
  body : Bytes
  headers : Headers
  now : Instant
deriving DecidableEq, Repr

/-- Why a delivery is refused before the store is asked. -/
inductive Refusal where
  /-- A header is missing; for each role, whether it was found. -/
  | missingHeader (signature timestamp nonce : Bool)
  /-- A check failed for the delivery with this nonce. -/
  | failed (reason : FailureReason) (nonce : String)
deriving DecidableEq, Repr

namespace Refusal

/-- The reason of the verdict. -/
def reason : Refusal → FailureReason
  | missingHeader .. => .missingHeader
  | failed reason _ => reason

/-- What is reported. -/
def event : Refusal → Event
  | missingHeader signature timestamp nonce => .missingHeader signature timestamp nonce
  | failed reason nonce => .rejected reason (nonceStart nonce)

end Refusal

/-- What comes of verifying a delivery over a store. -/
structure Outcome (σ : Type) where
  verdict : Verdict
  /-- The store once everything that was asked of it has run its course. -/
  store : σ
  events : List Event
  /-- How long the caller had to wait for the store. -/
  waited : Duration := .zero

namespace Verifier

/-- The verifier for sound options, or the first thing wrong with them. -/
def ofOptions (o : Options) : Except ConfigError Verifier :=
  match h : o.fault? with
  | some e => .error e
  | none => .ok ⟨o, h⟩

/-- The description of a verifier. -/
def description (v : Verifier) : String :=
  Text.record "Verifier" [("options", v.options.description)] true

/-- The signature that a delivery carries. -/
def signature? (v : Verifier) (h : Headers) : Option String :=
  h.firstNonBlank? (v.options.names .signature)

/-- The timestamp that a delivery carries. One that is blank counts as present, and is then no
timestamp. -/
def timestamp? (v : Verifier) (h : Headers) : Option String :=
  (h.firstNonBlank? (v.options.names .timestamp)).or
    (h.firstPresent? (v.options.names .timestamp))

/-- The nonce that a delivery carries. -/
def nonce? (v : Verifier) (h : Headers) : Option String :=
  h.firstNonBlank? (v.options.names .nonce)

/-- The instant until which a claimed nonce stays unavailable: a second after the message has
become too old for this clock reading and too old by its own timestamp, whichever is later. Where
the calendar ends first, the end of the calendar. -/
def expiry (v : Verifier) (now sentAt : Instant) : Instant :=
  match now.add? v.options.maxMessageAge, sentAt.add? v.options.allowedClockSkew with
  | some byAge, some bySkew => ((byAge.max bySkew).add? (.ofSecs 1)).getD .latest
  | _, _ => .latest

/-- Whether a message is behind the clock by more than its age allows. -/
def isTooOld (v : Verifier) (now sentAt : Instant) : Bool :=
  decide ((v.options.maxMessageAge.nanos : Int) < now.since sentAt)

/-- Whether a message is away from the clock, either way, by more than the skew allows. -/
def isSkewed (v : Verifier) (now sentAt : Instant) : Bool :=
  decide (v.options.allowedClockSkew.nanos < (now.since sentAt).natAbs)

/-- The checks on a delivery whose headers were found. -/
def checkMessage (v : Verifier) (d : Delivery) (signature timestamp nonce : String) :
    Except Refusal Claim :=
  match Timestamp.read? v.options.timestampPolicy timestamp with
  | none => .error (.failed .invalidTimestamp nonce)
  | some sentAt =>
    if v.isTooOld d.now sentAt then .error (.failed .messageTooOld nonce)
    else if v.isSkewed d.now sentAt then .error (.failed .clockSkew nonce)
    else if signatureMatches v.options.secret timestamp nonce d.body signature
        v.options.signatureEncoding then
      .ok ⟨nonce, v.expiry d.now sentAt, d.now⟩
    else .error (.failed .signatureMismatch nonce)

/-- The checks that need no store: the claim that a delivery makes, or why it is refused. -/
def check (v : Verifier) (d : Delivery) : Except Refusal Claim :=
  match v.signature? d.headers, v.timestamp? d.headers, v.nonce? d.headers with
  | some signature, some timestamp, some nonce => v.checkMessage d signature timestamp nonce
  | signature, timestamp, nonce =>
    .error (.missingHeader signature.isSome timestamp.isSome nonce.isSome)

/-- The verdict on a delivery whose claim was answered. -/
def verdictOf : Except StoreError Bool → Verdict
  | .ok true => .accepted
  | .ok false => .rejected .replay
  | .error _ => .rejected .storeUnavailable

/-- What is reported when a claim was answered. -/
def eventsOf (nonce : String) : Except StoreError Bool → List Event
  | .ok true => [.verified (nonceStart nonce)]
  | .ok false => [.rejected .replay (nonceStart nonce)]
  | .error e => [.claimFailed e, .rejected .storeUnavailable (nonceStart nonce)]

/-- Verifies a delivery over a store. -/
def verify {σ : Type} [NonceStore σ] (v : Verifier) (store : σ) (d : Delivery) : Outcome σ :=
  match v.check d with
  | .error refusal =>
    { verdict := .rejected refusal.reason, store := store, events := [refusal.event] }
  | .ok claim =>
    let (store, reply) := NonceStore.claim store claim
    let answer := reply.within v.options.storeTimeout
    { verdict := verdictOf answer
      store := store
      events := reply.events ++ eventsOf claim.nonce answer
      waited := reply.waited v.options.storeTimeout }

end Verifier

end WebhookGuard

import WebhookGuard.Proofs.Remote.Connection
import WebhookGuard.Proofs.Verifier.Signed
import WebhookGuard.Store.Kind

/-
  What logs tell of a verification. A line of a log shows the level, the message and the fields of
  an event. What a verifier writes is determined by what may be shown (`log_verify`): the verdict,
  which headers were found, the start of the nonce, and why the store failed if it did. So it is the
  same for two deliveries with other secrets, bodies, signatures, timestamps and clocks where these
  agree (`log_reveals_nothing_else`).

  What a store itself writes while it is asked stands before that. Of the stores here a remote one
  says when it opens its connection, and the others say nothing (`storeLog_store`). So what may be
  shown alone does not determine the log (`opening_is_logged`).
-/
namespace WebhookGuard

/-- What a log shows of an event. -/
structure LogLine where
  level : Level
  message : String
  fields : List (String × FieldValue)
deriving DecidableEq, Repr

/-- The line of an event. -/
def Event.line (e : Event) : LogLine := ⟨e.level, e.message, e.fields⟩

/-- The lines that verification led to. -/
def Outcome.log {σ : Type} (outcome : Outcome σ) : List LogLine := outcome.events.map Event.line

/-- What logs may tell of a verification. -/
structure Disclosed where
  verdict : Verdict
  hasSignature : Bool
  hasTimestamp : Bool
  hasNonce : Bool
  /-- The first eight characters of the nonce. -/
  nonceStart : List Char
  /-- The text of the error, where the store failed. -/
  failure? : Option String
deriving DecidableEq, Repr

/-- The lines that a verifier writes. -/
def Disclosed.log (known : Disclosed) : List LogLine :=
  let nonce := FieldValue.text (String.ofList known.nonceStart)
  match known.verdict with
  | .accepted => [⟨.debug, "webhook verified", [("nonce", nonce)]⟩]
  | .rejected .missingHeader =>
    [⟨.warn, "webhook rejected: missing header",
      [("has_signature", .flag known.hasSignature), ("has_timestamp", .flag known.hasTimestamp),
        ("has_nonce", .flag known.hasNonce)]⟩]
  | .rejected reason =>
    (known.failure?.map fun text =>
      ⟨.error, "nonce store claim failed", [("error", .text text)]⟩).toList ++
    [⟨.warn, "webhook rejected", [("reason", .text reason.name), ("nonce", nonce)]⟩]

/-- Success is one line for debugging; a rejection is one warning, with an error before it exactly
where the store failed. -/
def Disclosed.levels (known : Disclosed) : List Level :=
  match known.verdict, known.failure? with
  | .accepted, _ => [.debug]
  | .rejected _, none => [.warn]
  | .rejected _, some _ => [.error, .warn]

namespace Verifier

/-! ## What the checks find -/

theorem nonce?_of_check {v : Verifier} {d : Delivery} {c : Claim} (h : v.check d = .ok c) :
    v.nonce? d.headers = some c.nonce := by
  obtain ⟨timestamp, sent, hauthentic, -⟩ := check_eq_ok_iff.mp h
  exact hauthentic.nonce_eq

/-! ## Logs -/

variable {σ : Type} [NonceStore σ]

/-- What the store replies to the claim that a delivery makes, if it makes one. -/
def reply? (v : Verifier) (s : σ) (d : Delivery) : Option Reply :=
  match v.check d with
  | .ok claim => some (NonceStore.claim s claim).2
  | .error _ => none

/-- The text of an error. -/
def errorText? {α : Type} : Except StoreError α → Option String
  | .error e => some e.message
  | .ok _ => none

/-- The text of the error of a store that is asked and fails or lets the time for it run out. -/
def failure? (v : Verifier) (s : σ) (d : Delivery) : Option String :=
  (v.reply? s d).bind fun reply => errorText? (reply.within v.options.storeTimeout)

/-- The lines that the store writes while it is asked. -/
def storeLog (v : Verifier) (s : σ) (d : Delivery) : List LogLine :=
  match v.reply? s d with
  | some reply => reply.events.map Event.line
  | none => []

/-- The store opens its connection for the claim that a delivery makes. -/
def opensConnection (v : Verifier) (s : Store) (d : Delivery) : Bool :=
  match s, v.check d with
  | .remote remote, .ok claim => decide (remote.Sends claim ∧ remote.connected = false)
  | _, _ => false

/-- What logs may tell of the verification of a delivery. -/
def disclosed (v : Verifier) (s : σ) (d : Delivery) : Disclosed where
  verdict := (v.verify s d).verdict
  hasSignature := (v.signature? d.headers).isSome
  hasTimestamp := (v.timestamp? d.headers).isSome
  hasNonce := (v.nonce? d.headers).isSome
  nonceStart := ((v.nonce? d.headers).getD "").toList.take 8
  failure? := v.failure? s d

theorem reply?_of_refused {v : Verifier} {d : Delivery} {refusal : Refusal}
    (h : v.check d = .error refusal) (s : σ) : v.reply? s d = none := by
  unfold reply?
  rw [h]

theorem reply?_of_check {v : Verifier} {d : Delivery} {c : Claim} (h : v.check d = .ok c) (s : σ) :
    v.reply? s d = some (NonceStore.claim s c).2 := by
  unfold reply?
  rw [h]

theorem failure?_of_refused {v : Verifier} {d : Delivery} {refusal : Refusal}
    (h : v.check d = .error refusal) (s : σ) : v.failure? s d = none := by
  unfold failure?
  rw [reply?_of_refused h]
  rfl

theorem failure?_of_check {v : Verifier} {d : Delivery} {c : Claim} (h : v.check d = .ok c)
    (s : σ) : v.failure? s d =
      errorText? ((NonceStore.claim s c).2.within v.options.storeTimeout) := by
  unfold failure?
  rw [reply?_of_check h, Option.bind_some]

theorem log_of_refused {v : Verifier} {d : Delivery} {refusal : Refusal}
    (h : v.check d = .error refusal) (s : σ) :
    (v.verify s d).log = (v.disclosed s d).log := by
  have hlog : (v.verify s d).log = [refusal.event.line] := by
    unfold verify
    rw [h]
    rfl
  have hfailure := failure?_of_refused h s
  have hverdict := (verify_of_refused s h).1
  rw [hlog]
  unfold Disclosed.log disclosed
  rw [hverdict, hfailure]
  rcases check_eq_error h with rfl | ⟨nonce, hn, reason, ⟨hheaders, -⟩, rfl⟩
  · rfl
  · rw [hn]
    cases reason with
    | missingHeader => exact absurd rfl hheaders
    | _ => rfl

theorem log_of_check {v : Verifier} {d : Delivery} {c : Claim} (h : v.check d = .ok c) (s : σ) :
    (v.verify s d).log = v.storeLog s d ++ (v.disclosed s d).log := by
  have hlog : (v.verify s d).log = v.storeLog s d ++ (eventsOf c.nonce
      ((NonceStore.claim s c).2.within v.options.storeTimeout)).map Event.line := by
    unfold Outcome.log verify storeLog
    rw [reply?_of_check h, h, List.map_append]
  rw [hlog]
  unfold Disclosed.log disclosed
  rw [verdict_eq_of_check s h, failure?_of_check h, nonce?_of_check h]
  cases (NonceStore.claim s c).2.within v.options.storeTimeout with
  | error e => rfl
  | ok taken => cases taken <;> rfl

/-- After what the store writes, the verifier writes what is determined by what may be shown. -/
theorem log_verify (v : Verifier) (s : σ) (d : Delivery) :
    (v.verify s d).log = v.storeLog s d ++ (v.disclosed s d).log := by
  cases h : v.check d with
  | error refusal =>
    have hsilent : v.storeLog s d = [] := by
      unfold storeLog
      rw [reply?_of_refused h]
    rw [log_of_refused h, hsilent, List.nil_append]
  | ok c => exact log_of_check h s

/-- The store failed exactly where the verdict is an outage. -/
theorem failure?_isSome_iff (v : Verifier) (s : σ) (d : Delivery) :
    (v.failure? s d).isSome ↔ (v.verify s d).verdict = .rejected .storeUnavailable := by
  cases h : v.check d with
  | error refusal =>
    rw [failure?_of_refused h, (verify_of_refused s h).1]
    refine iff_of_false nofun fun hreason => ?_
    rcases check_eq_error h with rfl | ⟨nonce, -, reason, ⟨-, hstore, -⟩, rfl⟩
    · cases hreason
    · exact hstore (Verdict.rejected.inj hreason)
  | ok c =>
    rw [verdict_eq_of_check s h, failure?_of_check h]
    cases (NonceStore.claim s c).2.within v.options.storeTimeout with
    | error e => exact iff_of_true rfl rfl
    | ok taken => cases taken <;> exact iff_of_false nofun nofun

theorem levels_disclosed (v : Verifier) (s : σ) (d : Delivery) :
    (v.disclosed s d).log.map LogLine.level = (v.disclosed s d).levels := by
  have hfailure := v.failure?_isSome_iff s d
  unfold Disclosed.log Disclosed.levels disclosed
  cases hverdict : (v.verify s d).verdict with
  | accepted => rfl
  | rejected reason =>
    rw [hverdict] at hfailure
    cases htext : v.failure? s d with
    | none => cases reason <;> rfl
    | some text =>
      rw [htext] at hfailure
      obtain ⟨rfl⟩ := hfailure.mp rfl
      rfl

/-- A store writes nothing, but for the line of a connection that it opens. -/
theorem storeLog_store (v : Verifier) (s : Store) (d : Delivery) :
    v.storeLog s d = if v.opensConnection s d then [Event.connectionOpened.line] else [] := by
  unfold storeLog reply? opensConnection
  cases v.check d with
  | error refusal => cases s <;> rfl
  | ok c =>
    cases s with
    | remote remote =>
      have hevents := remote.events_claim c
      show (NonceStore.claim remote c).2.events.map Event.line = _
      rw [hevents]
      by_cases hopens : remote.Sends c ∧ remote.connected = false <;> simp [hopens]
    | _ => rfl

/-- What a verifier writes is determined by what may be shown, and its levels by whether the
delivery was accepted and the store failed. Before that stands what the store writes, which is the
line of its connection if it is a remote one that opens it and nothing otherwise. So two
verifications that agree on what may be shown and on whether a connection is opened are the same in
the logs. -/
theorem log_reveals_nothing_else :
    (∀ (σ : Type) [NonceStore σ] (v : Verifier) (s : σ) (d : Delivery),
      (v.verify s d).log = v.storeLog s d ++ (v.disclosed s d).log ∧
      (v.disclosed s d).log.map LogLine.level = (v.disclosed s d).levels ∧
      ((v.disclosed s d).failure?.isSome ↔
        (v.verify s d).verdict = .rejected .storeUnavailable)) ∧
    (∀ (σ σ' : Type) [NonceStore σ] [NonceStore σ'] (v v' : Verifier) (s : σ) (s' : σ')
      (d d' : Delivery), v.disclosed s d = v'.disclosed s' d' →
      ∃ lines, (v.verify s d).log = v.storeLog s d ++ lines ∧
        (v'.verify s' d').log = v'.storeLog s' d' ++ lines) ∧
    (∀ (v : Verifier) (s : Store) (d : Delivery),
      v.storeLog s d = (if v.opensConnection s d then [Event.connectionOpened.line] else []) ∧
      (v.verify s d).log.map LogLine.level =
        (if v.opensConnection s d then [.debug] else []) ++ (v.disclosed s d).levels) ∧
    ∀ (v v' : Verifier) (s s' : Store) (d d' : Delivery), v.disclosed s d = v'.disclosed s' d' →
      v.opensConnection s d = v'.opensConnection s' d' →
      (v.verify s d).log = (v'.verify s' d').log := by
  refine ⟨fun σ _ v s d => ⟨v.log_verify s d, v.levels_disclosed s d, v.failure?_isSome_iff s d⟩,
    fun σ σ' _ _ v v' s s' d d' hdisclosed => ?_, fun v s d => ⟨v.storeLog_store s d, ?_⟩,
    fun v v' s s' d d' hdisclosed hopens => ?_⟩
  · exact ⟨(v.disclosed s d).log, v.log_verify s d, hdisclosed ▸ v'.log_verify s' d'⟩
  · rw [log_verify, List.map_append, levels_disclosed, storeLog_store]
    cases v.opensConnection s d <;> rfl
  · rw [log_verify, log_verify, storeLog_store, storeLog_store, hdisclosed, hopens]

/-- A remote store that was never asked, or one that holds a connection. -/
def remoteSample (connected : Bool) : Store := .remote { keyStart := "p:", connected }

/-- A remote store opens its connection for a delivery and says so, and one that holds a connection
says nothing. The delivery is accepted by either, and what may be shown is the same. -/
theorem opening_is_logged :
    sample.disclosed (remoteSample false) (.sample ⟨1757962690, 0⟩) =
      sample.disclosed (remoteSample true) (.sample ⟨1757962690, 0⟩) ∧
    (sample.verify (remoteSample false) (.sample ⟨1757962690, 0⟩)).verdict = .accepted ∧
    (sample.verify (remoteSample false) (.sample ⟨1757962690, 0⟩)).log.map LogLine.level =
      [.debug, .debug] ∧
    (sample.verify (remoteSample true) (.sample ⟨1757962690, 0⟩)).log.map LogLine.level =
      [.debug] := by
  have hcheck : sample.check (.sample ⟨1757962690, 0⟩) =
      .ok ⟨"n", sample.expiry ⟨1757962690, 0⟩ ⟨1757962690, 0⟩, ⟨1757962690, 0⟩⟩ :=
    (authentic_sample _).check_eq (by decide)
  have hverdict : ∀ connected,
      (sample.verify (remoteSample connected) (.sample ⟨1757962690, 0⟩)).verdict = .accepted := by
    intro connected
    rw [verdict_eq_of_check _ hcheck]
    cases connected <;> decide
  have hfailure : ∀ connected,
      sample.failure? (remoteSample connected) (.sample ⟨1757962690, 0⟩) = none := by
    intro connected
    rw [failure?_of_check hcheck]
    cases connected <;> decide
  have hstore : ∀ connected, sample.storeLog (remoteSample connected) (.sample ⟨1757962690, 0⟩) =
      if connected then [] else [Event.connectionOpened.line] := by
    intro connected
    unfold storeLog
    rw [reply?_of_check hcheck]
    cases connected <;> decide
  have hlevels : ∀ connected,
      (sample.verify (remoteSample connected) (.sample ⟨1757962690, 0⟩)).log.map LogLine.level =
        if connected then [.debug] else [.debug, .debug] := by
    intro connected
    rw [log_verify, List.map_append, levels_disclosed, hstore]
    unfold Disclosed.levels disclosed
    rw [hverdict]
    cases connected <;> rfl
  refine ⟨?_, hverdict false, hlevels false, hlevels true⟩
  unfold disclosed
  rw [hverdict, hverdict, hfailure, hfailure]

/-! ## Samples -/

/-- A verifier with another secret. -/
def otherSample : Verifier where
  options := { secret := [110] }
  sound := by decide

/-- A delivery that is signed by nobody. -/
def unsigned (timestamp nonce signature : String) (body : Bytes) (now : Instant) : Delivery where
  body := body
  headers := .ofList
    [ (HeaderRole.timestamp.defaultName, timestamp),
      (HeaderRole.nonce.defaultName, nonce),
      (HeaderRole.signature.defaultName, signature) ]
  now := now

/-- Two deliveries that share the start of their nonces and nothing else are one line in the logs of
two verifiers that share no secret. -/
theorem log_reveals_nothing_else_of_samples :
    (sample.verify MemoryStore.empty
      (unsigned "1757962690" "invoice-1" "x" [] ⟨1757962691, 0⟩)).log =
      (otherSample.verify OpenStore.mk
        (unsigned "2025-09-15T18:58:10Z" "invoice-20" "y" [109] ⟨1757962680, 5⟩)).log ∧
    (sample.verify MemoryStore.empty
      (unsigned "1757962690" "invoice-1" "x" [] ⟨1757962691, 0⟩)).log =
      [⟨.warn, "webhook rejected",
        [("reason", .text "signature-mismatch"), ("nonce", .text "invoice-")]⟩] := by
  obtain ⟨hlog, hsame, -⟩ := log_reveals_nothing_else
  obtain ⟨lines, hfirst, hsecond⟩ := hsame _ _ sample otherSample MemoryStore.empty OpenStore.mk
    (unsigned "1757962690" "invoice-1" "x" [] ⟨1757962691, 0⟩)
    (unsigned "2025-09-15T18:58:10Z" "invoice-20" "y" [109] ⟨1757962680, 5⟩) (by decide +kernel)
  constructor
  · -- Neither store writes anything.
    rw [hfirst, hsecond]
    exact congrArg (· ++ lines) (by decide +kernel)
  · rw [(hlog _ _ _ _).1]
    decide +kernel

end Verifier

end WebhookGuard

import WebhookGuard.Proofs.Replay.Run
import WebhookGuard.Proofs.Verifier.Signed

/-
  No false replays. In a process that starts without records, a call is a replay only when an
  earlier call was accepted with the same nonce and claimed it beyond the clock reading of this one
  (`covered_of_replay`). The two reasons for which a store may refuse a claim without looking at its
  records never apply: the nonce of a delivery is not blank, and its claim is never void.

  Of several calls that pass the checks with a nonce, the first finds it free and is accepted. The
  others are replays for as long as their readings lie before the expiry of the first
  (`exactlyOnce_iff`). For a message with an ordinary timestamp they always do. A timestamp in a
  leap second may be fresh beyond the expiry of its claim, and then the message is accepted again.
-/
namespace WebhookGuard

open LawfulStore Run

/-- A delivery passes the checks before the calendar ends. -/
structure Verifier.Passes (v : Verifier) (d : Delivery) (nonce : String) (sent : Instant) :
    Prop where
  authentic : ∃ timestamp, v.Authentic d.body d.headers timestamp nonce sent
  fresh : v.IsFresh d.now sent
  now_lt : d.now < .latest

/-- The call was accepted, and claimed the nonce of the delivery beyond the clock reading that comes
with the delivery. -/
def Call.Covers (a : Call) (v : Verifier) (d : Delivery) : Prop :=
  a.verdict = .accepted ∧
    (∃ nonce, a.nonce? = some nonce ∧ v.nonce? d.headers = some nonce) ∧
    ∃ sent, a.sentAt? = some sent ∧ d.now < a.verifier.expiry a.delivery.now sent

/-- The calls that read a nonce. -/
def Run.callsWith (s : MemoryStore) (acts : List Action) (nonce : String) : List Call :=
  (calls s acts).filter fun c => c.nonce? = some nonce

theorem Run.mem_callsWith {s : MemoryStore} {acts : List Action} {nonce : String} {c : Call} :
    c ∈ callsWith s acts nonce ↔ c ∈ calls s acts ∧ c.nonce? = some nonce := by
  unfold callsWith
  rw [List.mem_filter, decide_eq_true_iff]

/-- One call is accepted, and the others are replays. -/
def Run.ExactlyOnce (cs : List Call) : Prop :=
  cs.countP (fun c => c.verdict = .accepted) = 1 ∧
    cs.countP (fun c => c.verdict = .rejected .replay) = cs.length - 1

theorem Run.exactlyOnce_cons {first : Call} {rest : List Call} (h : first.verdict = .accepted) :
    ExactlyOnce (first :: rest) ↔ ∀ c ∈ rest, c.verdict = .rejected .replay := by
  have hreplays : (first :: rest).countP (fun c => c.verdict = .rejected .replay) =
      rest.countP fun c => c.verdict = .rejected .replay := by
    rw [List.countP_cons_of_neg (by simp [h])]
  unfold ExactlyOnce
  rw [hreplays, List.countP_cons_of_pos (by simp [h]), List.length_cons, Nat.add_sub_cancel,
    List.countP_eq_length]
  constructor
  · rintro ⟨-, hall⟩ c hc
    simpa using hall c hc
  · intro hall
    have hnone : rest.countP (fun c => c.verdict = .accepted) = 0 := by
      rw [List.countP_eq_zero]
      intro c hc
      simp [hall c hc]
    exact ⟨by rw [hnone], fun c hc => by simp [hall c hc]⟩

namespace MemoryStore

/-! ## Replays have a reason -/

theorem covered_of_replay {before : List Action} {v : Verifier} {d : Delivery}
    (hnow : d.now < .latest)
    (h : (v.verify (storeAfter empty before) d).verdict = .rejected .replay) :
    ∃ a ∈ calls empty before, a.Covers v d := by
  cases hcheck : v.check d with
  | error refusal =>
    rw [(Verifier.verify_of_refused _ hcheck).1] at h
    exact absurd (Verdict.rejected.inj h) (Verifier.reason_ne_replay hcheck)
  | ok c =>
    obtain ⟨timestamp, sent, hauth, -, -⟩ := Verifier.check_eq_ok_iff.mp hcheck
    obtain ⟨expiry, hmem, hlt⟩ := exists_of_holds (Verifier.holds_of_replay hcheck hnow h)
    rcases mem_ledger_storeAfter hmem with hmem | ⟨a, ha, hacc, hnonce, senta, hsent, hexp⟩
    · cases hmem
    · refine ⟨a, ha, hacc, ⟨c.nonce, hnonce, hauth.nonce_eq⟩, senta, hsent, ?_⟩
      change d.now < expiry at hlt
      change expiry = _ at hexp
      rw [hexp] at hlt
      exact hlt

theorem accepted_of_not_covered {before : List Action} {v : Verifier} {d : Delivery} {c : Claim}
    (hnow : d.now < .latest) (hcheck : v.check d = .ok c)
    (h : ∀ a ∈ calls empty before, ¬ a.Covers v d) :
    (v.verify (storeAfter empty before) d).verdict = .accepted := by
  apply Classical.byContradiction
  intro hne
  obtain ⟨a, ha, hcovers⟩ := covered_of_replay hnow (Verifier.verdict_of_not_accepted hcheck hne)
  exact h a ha hcovers

/-! ## Several calls with one nonce -/

section Nonce

variable {s : MemoryStore} {v : Verifier} {d : Delivery} {nonce : String} {sent : Instant}
variable {after : List Action}

theorem check_of_passes (h : v.Passes d nonce sent) :
    v.check d = .ok ⟨nonce, v.expiry d.now sent, d.now⟩ := by
  obtain ⟨timestamp, hauth⟩ := h.authentic
  exact hauth.check_eq h.fresh

theorem takes_of_passes (h : v.Passes d nonce sent) (hfree : holds s nonce d.now = false) :
    takes s ⟨nonce, v.expiry d.now sent, d.now⟩ = true := by
  rw [Verifier.takes_of_check (check_of_passes h) h.now_lt]
  simp [hfree]

/-- After a nonce was taken, a call that passes the checks is no replay unless its reading lies
before the expiry or the nonce was taken once more. -/
theorem lt_expiry_of_replay (h : v.Passes d nonce sent) (hfree : holds s nonce d.now = false)
    {c : Call} {sent' : Instant} (hc : c ∈ callsWith (v.verify s d).store after nonce)
    (hpasses : c.verifier.Passes c.delivery nonce sent') (hreplay : c.verdict = .rejected .replay)
    (hnone : ∀ a ∈ callsWith (v.verify s d).store after nonce, a.verdict ≠ .accepted) :
    c.delivery.now < v.expiry d.now sent := by
  obtain ⟨earlier, later, heq⟩ := List.append_of_mem (mem_callsWith.mp hc).1
  obtain ⟨before, rest, -, rfl, hverdict⟩ := exists_of_calls_eq heq
  rw [hreplay] at hverdict
  obtain ⟨expiry, hrecord, hlt⟩ := exists_of_holds
    (Verifier.holds_of_replay (check_of_passes hpasses) hpasses.now_lt hverdict.symm)
  rcases mem_ledger_storeAfter hrecord with hrecord | ⟨a, ha, hacc, hna, -⟩
  · rw [Verifier.store_of_check s (check_of_passes h)] at hrecord
    have hexp := eq_of_mem_ledger_claim (takes_of_passes h hfree) hrecord
    rw [hexp] at hlt
    exact hlt
  · refine absurd hacc (hnone a (mem_callsWith.mpr ⟨?_, hna⟩))
    rw [heq]
    exact List.mem_append_left _ ha

/-- After a nonce was taken, a call that passes the checks is a replay if its reading lies before
the expiry. -/
theorem replay_of_lt_expiry (h : v.Passes d nonce sent) (hfree : holds s nonce d.now = false)
    (ho : Orderly after) {c : Call} {sent' : Instant}
    (hc : c ∈ callsWith (v.verify s d).store after nonce)
    (hpasses : c.verifier.Passes c.delivery nonce sent')
    (hlt : c.delivery.now < v.expiry d.now sent) : c.verdict = .rejected .replay := by
  obtain ⟨hmem, hn⟩ := mem_callsWith.mp hc
  have hheld : holds (v.verify s d).store nonce c.delivery.now = true := by
    rw [Verifier.store_of_check s (check_of_passes h)]
    exact holds_of_takes (takes_of_passes h hfree) hlt
  have hne := not_accepted_of_holds (fun _ _ => trivial) ho hmem hn hheld
  obtain ⟨earlier, later, heq⟩ := List.append_of_mem hmem
  obtain ⟨before, rest, -, -, hverdict⟩ := exists_of_calls_eq heq
  rw [hverdict] at hne ⊢
  exact Verifier.verdict_of_not_accepted (check_of_passes hpasses) hne

/-- Of the calls with a free nonce the first is accepted. -/
theorem callsWith_cons (h : v.Passes d nonce sent) (hfree : holds s nonce d.now = false) :
    callsWith s (.verify v d :: after) nonce =
      ⟨v, d, .accepted⟩ :: callsWith (v.verify s d).store after nonce := by
  obtain ⟨timestamp, hauth⟩ := h.authentic
  have hacc := hauth.verify_accepted h.fresh h.now_lt hfree
  have hn : (Call.mk v d (v.verify s d).verdict).nonce? = some nonce := hauth.nonce_eq
  unfold callsWith
  show (Call.mk v d (v.verify s d).verdict :: calls (v.verify s d).store after).filter _ = _
  rw [List.filter_cons_of_pos (by simpa using hn), hacc]

/-- When several calls with a free nonce pass the checks, exactly one is accepted if and only if the
others are all made before the first one's claim expires. -/
theorem exactlyOnce_iff (h : v.Passes d nonce sent) (hfree : holds s nonce d.now = false)
    (ho : Orderly after)
    (hothers : ∀ c ∈ callsWith (v.verify s d).store after nonce,
      ∃ sent', c.verifier.Passes c.delivery nonce sent') :
    ExactlyOnce (callsWith s (.verify v d :: after) nonce) ↔
      ∀ c ∈ callsWith (v.verify s d).store after nonce,
        c.delivery.now < v.expiry d.now sent := by
  rw [callsWith_cons h hfree, exactlyOnce_cons rfl]
  constructor
  · intro hall c hc
    obtain ⟨sent', hpasses⟩ := hothers c hc
    refine lt_expiry_of_replay h hfree hc hpasses (hall c hc) fun a ha => ?_
    rw [hall a ha]
    exact Verdict.noConfusion
  · intro hall c hc
    obtain ⟨sent', hpasses⟩ := hothers c hc
    exact replay_of_lt_expiry h hfree ho hc hpasses (hall c hc)

/-- A message with an ordinary timestamp is never fresh beyond the claim that was made for it. -/
theorem lt_expiry_of_passes (hs : sent.Ordinary) {d' : Delivery} {sent' : Instant}
    (h : v.Passes d nonce sent) (h' : v.Passes d' nonce sent') (heq : d'.headers = d.headers) :
    d'.now < v.expiry d.now sent := by
  obtain ⟨timestamp, hauth⟩ := h.authentic
  obtain ⟨timestamp', hauth'⟩ := h'.authentic
  have hsent : sent' = sent := by
    have hread := hauth'.sentAt?_eq
    rw [heq] at hread
    exact Option.some.inj (hread.symm.trans hauth.sentAt?_eq)
  have hfresh := h'.fresh
  rw [hsent] at hfresh
  rcases Verifier.secs_lt_expiry hs hfresh d.now with he | hlt
  · rw [he]
    exact h'.now_lt
  · exact Instant.lt_of_secs_lt hlt

end Nonce

theorem eq_of_mem_callsWith_singleton {s : MemoryStore} {v : Verifier} {d : Delivery}
    {nonce : String} {c : Call} (h : c ∈ callsWith s [.verify v d] nonce) :
    c.verifier = v ∧ c.delivery = d := by
  have hmem := verify_mem_of_mem_calls (mem_callsWith.mp h).1
  exact Action.verify.inj (List.mem_singleton.mp hmem)

theorem passes_sample (now : Instant) (hf : Verifier.sample.IsFresh now ⟨1757962690, 0⟩)
    (hnow : now < .latest) :
    Verifier.sample.Passes (.sample now) "n" ⟨1757962690, 0⟩ :=
  ⟨⟨_, Verifier.authentic_sample now⟩, hf, hnow⟩

/-- Before the end of the calendar a call is a replay only if an accepted call covers it, and a call
that passes the checks and is not covered is accepted. Calls with a nonce that is free and that all
pass the checks are accepted exactly once if and only if the first one's claim outlasts the
readings of the others, which it does when they present the same headers to the same verifier and
the timestamp is ordinary. -/
theorem exactly_once (before : List Action) :
    (∀ v d, d.now < .latest →
      ((v.verify (storeAfter empty before) d).verdict = .rejected .replay →
        ∃ a ∈ calls empty before, a.Covers v d) ∧
      ((∃ c, v.check d = .ok c) → (∀ a ∈ calls empty before, ¬ a.Covers v d) →
        (v.verify (storeAfter empty before) d).verdict = .accepted)) ∧
    (∀ v d nonce sent after, v.Passes d nonce sent →
      holds (storeAfter empty before) nonce d.now = false → Orderly after →
      (∀ c ∈ callsWith (v.verify (storeAfter empty before) d).store after nonce,
        ∃ sent', c.verifier.Passes c.delivery nonce sent') →
      (ExactlyOnce (callsWith (storeAfter empty before) (.verify v d :: after) nonce) ↔
        ∀ c ∈ callsWith (v.verify (storeAfter empty before) d).store after nonce,
          c.delivery.now < v.expiry d.now sent) ∧
      (sent.Ordinary →
        (∀ c ∈ callsWith (v.verify (storeAfter empty before) d).store after nonce,
          c.verifier = v ∧ c.delivery.headers = d.headers) →
        ExactlyOnce (callsWith (storeAfter empty before) (.verify v d :: after) nonce))) := by
  refine ⟨fun v d hnow => ⟨covered_of_replay hnow, ?_⟩, ?_⟩
  · rintro ⟨c, hcheck⟩ hnot
    exact accepted_of_not_covered hnow hcheck hnot
  · intro v d nonce sent after h hfree ho hothers
    have hiff := exactlyOnce_iff h hfree ho hothers
    refine ⟨hiff, fun hs hsame => hiff.mpr fun c hc => ?_⟩
    obtain ⟨sent', hpasses⟩ := hothers c hc
    obtain ⟨hv, hheaders⟩ := hsame c hc
    rw [hv] at hpasses
    exact lt_expiry_of_passes hs h hpasses hheaders

/-- Presented at the first and at the last moment of its being fresh, a message is accepted once. -/
theorem exactly_once_of_sample :
    ExactlyOnce (callsWith empty
      [ .verify .sample (.sample ⟨1757962990, 0⟩),
        .verify .sample (.sample ⟨1757962390, 0⟩) ] "n") := by
  have h := passes_sample ⟨1757962990, 0⟩ (by decide) (by decide)
  have h' := passes_sample ⟨1757962390, 0⟩ (by decide) (by decide)
  refine ((exactly_once []).2 .sample _ "n" ⟨1757962690, 0⟩ _ h rfl (by decide) ?_).2 (by decide) ?_
  · intro c hc
    obtain ⟨hv, hd⟩ := eq_of_mem_callsWith_singleton hc
    rw [hv, hd]
    exact ⟨_, h'⟩
  · intro c hc
    obtain ⟨hv, hd⟩ := eq_of_mem_callsWith_singleton hc
    exact ⟨hv, by rw [hd]; rfl⟩

/-! ## A leap second -/

/-- A verifier that allows five minutes either way. -/
def evenVerifier : Verifier where
  options := { secret := [107], allowedClockSkew := .ofSecs 300, maxMessageAge := .ofSecs 300 }
  sound := by decide

/-- A message that was sent in the leap second at the end of 2016. -/
def leapDelivery (now : Instant) : Delivery :=
  .signed evenVerifier "2016-12-31T23:59:60Z" "n" [] now

theorem passes_leap (now : Instant) (hf : evenVerifier.IsFresh now ⟨1483228799, 1000000000⟩)
    (hnow : now < .latest) :
    evenVerifier.Passes (leapDelivery now) "n" ⟨1483228799, 1000000000⟩ := by
  have hread : Timestamp.read? .flexible "2016-12-31T23:59:60Z" =
      some ⟨1483228799, 1000000000⟩ := by decide +kernel
  have ht : Text.isBlank "2016-12-31T23:59:60Z" = false := by decide
  have hnames : ∀ role, evenVerifier.options.header role = role.defaultName := by
    intro role
    cases role <;> rfl
  have hencoding : evenVerifier.options.signatureEncoding ≠ .base64 := by decide
  exact ⟨⟨_, Verifier.authentic_signed hnames hencoding ht (by decide) hread [] now⟩, hf, hnow⟩

/-- Accepted at 23:55:00, the message is claimed until 00:05:00. At that moment it counts as five
minutes old, so it is fresh, and its nonce is free. -/
theorem not_exactlyOnce_of_leap :
    evenVerifier.Passes (leapDelivery ⟨1483228500, 0⟩) "n" ⟨1483228799, 1000000000⟩ ∧
    evenVerifier.Passes (leapDelivery ⟨1483229100, 0⟩) "n" ⟨1483228799, 1000000000⟩ ∧
    holds empty "n" ⟨1483228500, 0⟩ = false ∧
    ¬ ExactlyOnce (callsWith empty
      [ .verify evenVerifier (leapDelivery ⟨1483228500, 0⟩),
        .verify evenVerifier (leapDelivery ⟨1483229100, 0⟩) ] "n") := by
  have h := passes_leap ⟨1483228500, 0⟩ (by decide) (by decide)
  have h' := passes_leap ⟨1483229100, 0⟩ (by decide) (by decide)
  refine ⟨h, h', rfl, fun honce => ?_⟩
  have hothers : ∀ c ∈ callsWith (evenVerifier.verify empty (leapDelivery ⟨1483228500, 0⟩)).store
      [.verify evenVerifier (leapDelivery ⟨1483229100, 0⟩)] "n",
      ∃ sent, c.verifier.Passes c.delivery "n" sent := by
    intro c hc
    obtain ⟨hv, hd⟩ := eq_of_mem_callsWith_singleton hc
    rw [hv, hd]
    exact ⟨_, h'⟩
  obtain ⟨timestamp, hauth⟩ := h'.authentic
  have hlt := (exactlyOnce_iff h rfl (by decide) hothers).mp honce _
    (mem_callsWith.mpr ⟨List.mem_cons_self, hauth.nonce_eq⟩)
  exact absurd hlt (by decide)

end MemoryStore

end WebhookGuard

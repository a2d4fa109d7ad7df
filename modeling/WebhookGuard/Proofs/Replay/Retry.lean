import WebhookGuard.Http.Response
import WebhookGuard.Proofs.Replay.Unsteady
import WebhookGuard.Proofs.Verifier.Signed

/-
  Deliveries that are made again. When a store is unavailable the sender is asked to try again, and
  no other verdict asks for that. If the store had reported an error, the second attempt is as good
  as the first. If it was only late, its claim for the first attempt may have taken the nonce by
  then, and holds it against every further attempt. So a delivery that is made again is accepted if
  and only if no late claim holds its nonce, and is a replay otherwise (`retry_accepted_iff`).
-/
namespace WebhookGuard

open LawfulStore

namespace Unsteady

section Lawful

variable {σ τ : Type} [NonceStore σ] [LE τ] [LT τ] [DecidableRel (LT.lt : τ → τ → Prop)]
variable [lawful : LawfulStore σ τ]

/-! ## Delivered again -/

/-- The verdict when a delivery is made again after some steps, and the store serves it as it
should. -/
def verdictAgain (s : Unsteady σ) (v : Verifier) (d : Delivery)
    (service : Service v.options.storeTimeout) (between : List Step) (again : Instant) : Verdict :=
  (v.verify ((s.serve v d service).after between).store { d with now := again }).verdict

/-- An authentic and fresh delivery with a free nonce was not decided on for want of an answer of the
store. It is made again while it is fresh, and no call with its nonce was accepted in between. -/
structure Retried (s : Unsteady σ) (v : Verifier) (d : Delivery) (nonce : String) (sent : Instant)
    (service : Service v.options.storeTimeout) (between : List Step) (again : Instant) :
    Prop where
  authentic : ∃ timestamp, v.Authentic d.body d.headers timestamp nonce sent
  fresh : v.IsFresh d.now sent
  free : holds s.store nonce d.now = false
  unavailable : s.verdict v d service = .rejected .storeUnavailable
  later : d.now ≤ again
  fresh_again : v.IsFresh again sent
  again_lt : again < .latest
  none_accepted : ∀ a ∈ (s.serve v d service).calls between,
    a.nonce? = some nonce → a.verdict ≠ .accepted
  readable : ∀ step ∈ .call v d service :: between, ∀ t ∈ step.now?, Readable σ t
  purged : ∀ now, .purge now ∈ between → now ≤ again

include lawful in
theorem store_serve_of_unavailable {s : Unsteady σ} {v : Verifier} {d : Delivery} {c : Claim}
    {service : Service v.options.storeTimeout} (hcheck : v.check d = .ok c)
    (h : s.verdict v d service = .rejected .storeUnavailable) :
    (s.serve v d service).store = s.store := by
  cases service with
  | failing cause => rfl
  | stalled delay late => rfl
  | prompt =>
    change (v.verify s.store d).verdict = .rejected .storeUnavailable at h
    rw [Verifier.verdict_of_check s.store hcheck] at h
    split at h <;> cases h

namespace Retried

variable {s : Unsteady σ} {v : Verifier} {d : Delivery} {nonce : String} {sent again : Instant}
variable {service : Service v.options.storeTimeout} {between : List Step}

theorem check_again (h : Retried s v d nonce sent service between again) :
    v.check { d with now := again } = .ok ⟨nonce, v.expiry again sent, again⟩ := by
  obtain ⟨timestamp, hauth⟩ := h.authentic
  have hauth' : v.Authentic { d with now := again }.body { d with now := again }.headers timestamp
    nonce sent := hauth
  exact hauth'.check_eq h.fresh_again

/-- The delivery is accepted the second time if its nonce is free, and is a replay otherwise. -/
theorem verdict_eq (h : Retried s v d nonce sent service between again) :
    s.verdictAgain v d service between again =
      if holds ((s.serve v d service).after between).store nonce again then .rejected .replay
      else .accepted := by
  unfold verdictAgain
  rw [Verifier.verdict_of_check _ h.check_again, Verifier.takes_of_check h.check_again h.again_lt]
  show (if (!holds _ nonce again) = true then _ else _) = _
  cases holds ((s.serve v d service).after between).store nonce again <;> rfl

variable [Std.IsLinearOrder τ] [Std.LawfulOrderLT τ]

/-- The nonce is held the second time if and only if a late claim holds it. -/
theorem holds_iff (hs : s.Inv) (h : Retried s v d nonce sent service between again) :
    holds ((s.serve v d service).after between).store nonce again = true ↔
      ∃ c ∈ (s.serve v d service).settled between,
        c.nonce = nonce ∧ reading σ again < reading σ c.expiresAt := by
  have hstep := h.readable _ List.mem_cons_self
  have hserved : (s.serve v d service).Inv := Inv.step hs hstep
  constructor
  · intro hheld
    rcases holds_of_holds_after hserved.distinct hheld with hbefore | ⟨a, ha, hn, hacc⟩ | hlate
    · obtain ⟨timestamp, hauth⟩ := h.authentic
      rw [store_serve_of_unavailable (hauth.check_eq h.fresh) h.unavailable] at hbefore
      have hheld' := holds_of_le hbefore (hstep d.now rfl) h.later
      exact Bool.noConfusion (hheld'.symm.trans h.free)
    · exact absurd hacc (h.none_accepted a ha hn)
    · exact hlate
  · rintro ⟨c, hc, rfl, hlt⟩
    exact holds_of_settled hserved hc hlt
      (fun step hmem => h.readable step (List.mem_cons_of_mem _ hmem)) h.purged

theorem accepted_iff (hs : s.Inv) (h : Retried s v d nonce sent service between again) :
    s.verdictAgain v d service between again = .accepted ↔
      ∀ c ∈ (s.serve v d service).settled between,
        c.nonce = nonce → ¬ reading σ again < reading σ c.expiresAt := by
  have hiff := h.holds_iff hs
  rw [h.verdict_eq]
  split
  · next hheld =>
    obtain ⟨c, hc, hn, hlt⟩ := hiff.mp hheld
    exact iff_of_false Verdict.noConfusion fun hall => hall c hc hn hlt
  · next hfree =>
    exact iff_of_true rfl fun c hc hn hlt => hfree (hiff.mpr ⟨c, hc, hn, hlt⟩)

theorem replay_of_settled (hs : s.Inv) (h : Retried s v d nonce sent service between again)
    {c : Claim} (hc : c ∈ (s.serve v d service).settled between) (hn : c.nonce = nonce)
    (hlt : reading σ again < reading σ c.expiresAt) :
    s.verdictAgain v d service between again = .rejected .replay := by
  rw [h.verdict_eq, if_pos ((h.holds_iff hs).mpr ⟨c, hc, hn, hlt⟩)]

/-- When the store has reported an error for each call with the nonce, the delivery is accepted the
second time. -/
theorem accepted_of_failing (hs : s.Inv) (h : Retried s v d nonce sent service between again)
    (hunder : ∀ c ∈ s.underWay, c.nonce ≠ nonce)
    (hstalls : ∀ step ∈ .call v d service :: between, ¬ step.Stalls nonce) :
    s.verdictAgain v d service between again = .accepted := by
  refine (h.accepted_iff hs).mpr fun c hc hn => ?_
  have hc' : c ∈ s.settled (.call v d service :: between) := mem_settled_cons.mpr (Or.inr hc)
  rcases exists_stalls_of_settled hc' with hold | ⟨step, hmem, hstall⟩
  · exact absurd hn (hunder c hold)
  · exact absurd (hn ▸ hstall) (hstalls step hmem)

end Retried

end Lawful

/-! ## The table -/

/-- A table without rows, and nothing under way. -/
def emptyTable : Unsteady TableStore := ⟨.empty, []⟩

theorem inv_emptyTable : emptyTable.Inv := ⟨Ledger.distinct_empty, fun _ h => nomatch h⟩

/-- The table began without rows, and the clock readings since then were ordinary. -/
def Reached (s : Unsteady TableStore) : Prop :=
  ∃ before, (∀ step ∈ before, ∀ t ∈ step.now?, t.Ordinary) ∧ emptyTable.after before = s

theorem Reached.inv {s : Unsteady TableStore} (h : Reached s) : s.Inv := by
  obtain ⟨before, hordinary, rfl⟩ := h
  exact inv_emptyTable.after hordinary

section Table

variable {s : Unsteady TableStore} {v : Verifier} {d : Delivery} {nonce : String}
variable {sent again : Instant} {service : Service v.options.storeTimeout} {between : List Step}

/-- A claim for a message, whenever it was made, outlasts all moments at which the message is
fresh. -/
theorem Retried.millis_lt_expiry (h : Retried s v d nonce sent service between again)
    (hs : sent.Ordinary) (hagain : again.Ordinary) {now : Instant} (hc : v.InCalendar now sent) :
    again.millis < (v.expiry now sent).millis :=
  Instant.millis_lt_millis hagain (Verifier.secs_lt_expiry_of_inCalendar hs h.fresh_again hc)

/-- After a call that the store has left undecided, its delivery is accepted when it is made again,
if and only if no late claim holds the nonce, and otherwise it is a replay. It is accepted if the
store has reported an error for each call with the nonce. It is a replay for as long as it is fresh
if the claim of one of its calls has taken the nonce late. -/
theorem retry_accepted_iff (hs : Reached s)
    (h : Retried s v d nonce sent service between again) :
    (s.verdictAgain v d service between again = .accepted ↔
      ∀ c ∈ (s.serve v d service).settled between,
        c.nonce = nonce → c.expiresAt.millis ≤ again.millis) ∧
    (s.verdictAgain v d service between again ≠ .accepted →
      s.verdictAgain v d service between again = .rejected .replay) ∧
    ((∀ c ∈ s.underWay, c.nonce ≠ nonce) →
      (∀ step ∈ .call v d service :: between, ¬ step.Stalls nonce) →
      s.verdictAgain v d service between again = .accepted) ∧
    (sent.Ordinary → again.Ordinary → ∀ now, v.InCalendar now sent →
      ⟨nonce, v.expiry now sent, now⟩ ∈ (s.serve v d service).settled between →
      s.verdictAgain v d service between again = .rejected .replay) := by
  refine ⟨?_, ?_, h.accepted_of_failing hs.inv, ?_⟩
  · rw [h.accepted_iff hs.inv]
    simp only [reading, Int.not_lt]
  · intro hne
    rw [h.verdict_eq] at hne ⊢
    split
    · rfl
    · next hfree => exact absurd (if_neg hfree) hne
  · intro hsent hagain now hc hsettled
    exact h.replay_of_settled hs.inv hsettled rfl (h.millis_lt_expiry hsent hagain hc)

end Table

/-! ## The sample again -/

/-- The sample, delivered when it was sent and again five seconds later. -/
theorem retried_sample (service : Service Verifier.sample.options.storeTimeout)
    (between : List Step)
    (hunavailable : emptyTable.verdict .sample (.sample ⟨1757962690, 0⟩) service =
      .rejected .storeUnavailable)
    (hcalls : (emptyTable.serve .sample (.sample ⟨1757962690, 0⟩) service).calls between = [])
    (hbetween : ∀ step ∈ between, ∀ t ∈ step.now?, t.Ordinary ∧ t ≤ ⟨1757962695, 0⟩) :
    Retried emptyTable .sample (.sample ⟨1757962690, 0⟩) "n" ⟨1757962690, 0⟩ service between
      ⟨1757962695, 0⟩ where
  authentic := ⟨_, Verifier.authentic_sample _⟩
  fresh := by decide
  free := rfl
  unavailable := hunavailable
  later := by decide
  fresh_again := by decide
  again_lt := by decide
  none_accepted a ha := by
    rw [hcalls] at ha
    cases ha
  readable step hstep t ht := by
    rcases List.mem_cons.mp hstep with rfl | hmem
    · obtain rfl := Option.some.inj ht
      show Instant.Ordinary _
      decide
    · exact (hbetween step hmem t ht).1
  purged now hmem := (hbetween _ hmem now rfl).2

/-- The claim of the sample when it is delivered as it is sent. -/
def sampleClaim : Claim :=
  ⟨"n", Verifier.sample.expiry ⟨1757962690, 0⟩ ⟨1757962690, 0⟩, ⟨1757962690, 0⟩⟩

theorem check_sample : Verifier.sample.check (.sample ⟨1757962690, 0⟩) = .ok sampleClaim :=
  (Verifier.authentic_sample _).check_eq (by decide)

/-- The store is down, and up again when the delivery is made again. -/
theorem retry_accepted_of_failing :
    emptyTable.verdictAgain .sample (.sample ⟨1757962690, 0⟩) (.failing "down")
      [.purge ⟨1757962694, 0⟩] ⟨1757962695, 0⟩ = .accepted := by
  have h := retried_sample (.failing "down") [.purge ⟨1757962694, 0⟩]
    (verdict_of_failing check_sample _) rfl (by simp [Step.now?]; decide)
  have hs : Reached emptyTable := ⟨[], by simp, rfl⟩
  exact (retry_accepted_iff hs h).2.2.1 (by simp [emptyTable]) (by simp [Step.Stalls])

/-- An answer after three seconds is late for the sample. -/
def threeSeconds : Service Verifier.sample.options.storeTimeout :=
  .stalled (.ofSecs 3) (by decide)

/-- The answer is late, and the claim takes effect before the delivery is made again. The sender is
told to try again, and then refused for good. -/
theorem refused_of_stalled :
    Retried emptyTable .sample (.sample ⟨1757962690, 0⟩) "n" ⟨1757962690, 0⟩ threeSeconds
      [.settle sampleClaim] ⟨1757962695, 0⟩ ∧
    Response.ofVerdict (emptyTable.verdict .sample (.sample ⟨1757962690, 0⟩) threeSeconds) =
      .unavailable ∧
    Response.ofVerdict (emptyTable.verdictAgain .sample (.sample ⟨1757962690, 0⟩) threeSeconds
      [.settle sampleClaim] ⟨1757962695, 0⟩) = .refused := by
  have hunavailable : emptyTable.verdict .sample (.sample ⟨1757962690, 0⟩) threeSeconds =
      .rejected .storeUnavailable := verdict_of_stalled check_sample _
  have h := retried_sample threeSeconds [.settle sampleClaim] hunavailable rfl (by simp [Step.now?])
  have hmem : sampleClaim ∈
      (emptyTable.serve .sample (.sample ⟨1757962690, 0⟩) threeSeconds).underWay := by
    show sampleClaim ∈ (Verifier.sample.check (.sample ⟨1757962690, 0⟩)).toOption.toList ++ []
    rw [check_sample]
    exact List.mem_cons_self
  have htakes : takes TableStore.empty sampleClaim = true :=
    Verifier.takes_of_check check_sample (by decide)
  have hsettled : sampleClaim ∈ (emptyTable.serve .sample (.sample ⟨1757962690, 0⟩)
      threeSeconds).settled [.settle sampleClaim] :=
    mem_settled_cons.mpr (Or.inl (settled?_eq_some_iff.mpr ⟨rfl, hmem, htakes⟩))
  have hreplay := h.replay_of_settled inv_emptyTable hsettled rfl
    (h.millis_lt_expiry (by decide) (by decide) (by decide))
  refine ⟨h, ?_, ?_⟩
  · rw [hunavailable]
    rfl
  · rw [hreplay]
    rfl

end Unsteady

end WebhookGuard

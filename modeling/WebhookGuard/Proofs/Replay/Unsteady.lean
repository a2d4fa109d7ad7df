import WebhookGuard.Proofs.Replay.Run
import WebhookGuard.Proofs.Store.Distinct
import WebhookGuard.Store.Stateless

/-
  A store in trouble. It may report an error instead of making a claim, or it may not answer in
  time. In the second case the claim is still under way when the call returns, and takes effect at
  any later moment or never. Either way the call ends with the verdict that the store is
  unavailable.

  After an error a nonce is as free as before. A claim that takes effect late holds its nonce as any
  claim does (`holds_of_settled`), and apart from such claims a nonce is held only on account of
  accepted calls (`holds_of_holds_after`).
-/
namespace WebhookGuard

open LawfulStore

/-- How a store serves a claim that may take it some time. -/
inductive Service (limit : Duration) where
  /-- It makes the claim and answers. -/
  | prompt
  /-- It reports an error and does not make the claim. -/
  | failing (cause : String)
  /-- It has not answered when the time for it is up. The claim goes on by itself. -/
  | stalled (delay : Duration)
    (late : ({ answer := .ok true, delay } : Reply).isLate limit = true)

/-- A store along with the claims that are still under way for calls that have returned. -/
structure Unsteady (σ : Type) where
  store : σ
  underWay : List Claim := []

namespace Unsteady

/-- What may happen to a store. -/
inductive Step where
  | call (verifier : Verifier) (delivery : Delivery)
    (service : Service verifier.options.storeTimeout)
  /-- A claim that is under way takes effect. -/
  | settle (claim : Claim)
  | purge (now : Instant)

/-- The clock reading that a step brings. -/
def Step.now? : Step → Option Instant
  | call _ d _ => some d.now
  | settle _ => none
  | purge now => some now

/-- The step is a call with this nonce for which the store does not answer in time. -/
def Step.Stalls (nonce : String) : Step → Prop
  | call v d (.stalled ..) => v.nonce? d.headers = some nonce
  | call _ _ .prompt | call _ _ (.failing _) | settle _ | purge _ => False

section Store

variable {σ : Type} [NonceStore σ]

/-- The verdict of a call. -/
def verdict (s : Unsteady σ) (v : Verifier) (d : Delivery) :
    Service v.options.storeTimeout → Verdict
  | .prompt => (v.verify s.store d).verdict
  | .failing cause => (v.verify (BrokenStore.mk cause) d).verdict
  | .stalled delay _ => (v.verify (SlowStore.mk delay true) d).verdict

/-- What a call leaves behind. -/
def serve (s : Unsteady σ) (v : Verifier) (d : Delivery) :
    Service v.options.storeTimeout → Unsteady σ
  | .prompt => { s with store := (v.verify s.store d).store }
  | .failing _ => s
  | .stalled .. => { s with underWay := (v.check d).toOption.toList ++ s.underWay }

/-- A claim takes effect, if it is under way. -/
def settle (s : Unsteady σ) (c : Claim) : Unsteady σ :=
  if c ∈ s.underWay then ⟨(NonceStore.claim s.store c).1, s.underWay.erase c⟩ else s

def step (s : Unsteady σ) : Step → Unsteady σ
  | .call v d service => s.serve v d service
  | .settle c => s.settle c
  | .purge now => { s with store := (NonceStore.purge s.store now).1 }

def after (s : Unsteady σ) : List Step → Unsteady σ
  | [] => s
  | step :: steps => (s.step step).after steps

def call? (s : Unsteady σ) : Step → Option Call
  | .call v d service => some ⟨v, d, s.verdict v d service⟩
  | .settle _ | .purge _ => none

/-- The calls of some steps, in order. -/
def calls (s : Unsteady σ) : List Step → List Call
  | [] => []
  | step :: steps => (s.call? step).toList ++ (s.step step).calls steps

theorem mem_calls_cons {s : Unsteady σ} {step : Step} {steps : List Step} {a : Call} :
    a ∈ s.calls (step :: steps) ↔ s.call? step = some a ∨ a ∈ (s.step step).calls steps := by
  simp [calls]

/-- What is under way after a step was so before, or the step is the stalled call that makes it. -/
theorem mem_underWay_step {s : Unsteady σ} {step : Step} {c : Claim}
    (h : c ∈ (s.step step).underWay) :
    c ∈ s.underWay ∨
      ∃ v d delay late, step = .call v d (.stalled delay late) ∧ v.check d = .ok c := by
  cases step with
  | purge now => exact Or.inl h
  | settle c' =>
    change c ∈ (s.settle c').underWay at h
    unfold settle at h
    split at h
    · exact Or.inl (List.mem_of_mem_erase h)
    · exact Or.inl h
  | call v d service =>
    cases service with
    | prompt => exact Or.inl h
    | failing cause => exact Or.inl h
    | stalled delay late =>
      rcases List.mem_append.mp h with hnew | hold
      · cases hcheck : v.check d with
        | error refusal => simp [hcheck, Except.toOption] at hnew
        | ok made =>
          obtain rfl : c = made := by simpa [hcheck, Except.toOption] using hnew
          exact Or.inr ⟨v, d, delay, late, rfl, hcheck⟩
      · exact Or.inl hold

theorem verdict_of_failing {s : Unsteady σ} {v : Verifier} {d : Delivery} {c : Claim}
    (h : v.check d = .ok c) (cause : String) :
    s.verdict v d (.failing cause) = .rejected .storeUnavailable := by
  show (v.verify (BrokenStore.mk cause) d).verdict = _
  rw [Verifier.verdict_eq_of_check _ h]
  show Verifier.verdictOf (({ answer := .error (.unavailable cause) } : Reply).within _) = _
  rw [Verifier.within_of_no_delay]
  rfl

theorem verdict_of_stalled {s : Unsteady σ} {v : Verifier} {d : Delivery} {c : Claim}
    (h : v.check d = .ok c) {delay : Duration}
    (late : ({ answer := .ok true, delay } : Reply).isLate v.options.storeTimeout = true) :
    s.verdict v d (.stalled delay late) = .rejected .storeUnavailable := by
  show (v.verify (SlowStore.mk delay true) d).verdict = _
  rw [Verifier.verdict_eq_of_check _ h]
  show Verifier.verdictOf (({ answer := .ok true, delay } : Reply).within _) = _
  unfold Reply.within
  rw [if_pos late]
  rfl

end Store

section Lawful

variable {σ τ : Type} [NonceStore σ] [LE τ] [LT τ] [DecidableRel (LT.lt : τ → τ → Prop)]
variable [LawfulStore σ τ]

/-- The claim that takes a nonce late in a step, if there is one. -/
def settled? (s : Unsteady σ) : Step → Option Claim
  | .settle c => if c ∈ s.underWay ∧ takes s.store c = true then some c else none
  | .call .. | .purge _ => none

/-- The claims that take their nonces late, in order. -/
def settled (s : Unsteady σ) : List Step → List Claim
  | [] => []
  | step :: steps => (s.settled? step).toList ++ (s.step step).settled steps

theorem settled?_eq_some_iff {s : Unsteady σ} {step : Step} {c : Claim} :
    s.settled? step = some c ↔
      step = .settle c ∧ c ∈ s.underWay ∧ takes s.store c = true := by
  cases step with
  | call v d service => simp [settled?]
  | purge now => simp [settled?]
  | settle c' =>
    simp only [settled?, Option.ite_none_right_eq_some, Option.some.injEq, Step.settle.injEq]
    constructor
    · rintro ⟨h, rfl⟩
      exact ⟨rfl, h⟩
    · rintro ⟨rfl, h⟩
      exact ⟨h, rfl⟩

theorem mem_settled_cons {s : Unsteady σ} {step : Step} {steps : List Step} {c : Claim} :
    c ∈ s.settled (step :: steps) ↔
      s.settled? step = some c ∨ c ∈ (s.step step).settled steps := by
  simp [settled]

/-! ## What a step keeps -/

/-- No nonce has two records, and the claims under way were made at readings that the store can put
in order. -/
structure Inv (s : Unsteady σ) : Prop where
  distinct : (ledger s.store).Distinct
  readable : ∀ c ∈ s.underWay, Readable σ c.now

theorem distinct_verify {s : σ} (h : (ledger s).Distinct) (v : Verifier) (d : Delivery) :
    (ledger (v.verify s d).store).Distinct := by
  cases hcheck : v.check d with
  | error refusal =>
    rw [(Verifier.verify_of_refused s hcheck).2]
    exact h
  | ok c =>
    rw [Verifier.store_of_check s hcheck]
    exact distinct_claim h c

theorem distinct_step {s : Unsteady σ} (h : (ledger s.store).Distinct) (step : Step) :
    (ledger (s.step step).store).Distinct := by
  cases step with
  | call v d service =>
    cases service with
    | prompt => exact distinct_verify h v d
    | failing cause => exact h
    | stalled delay late => exact h
  | purge now => exact distinct_purge h now
  | settle c =>
    show (ledger (s.settle c).store).Distinct
    unfold settle
    split
    · exact distinct_claim h c
    · exact h

theorem Inv.step {s : Unsteady σ} (h : s.Inv) {step : Step}
    (hr : ∀ t ∈ step.now?, Readable σ t) : (s.step step).Inv := by
  refine ⟨distinct_step h.distinct step, fun c hc => ?_⟩
  rcases mem_underWay_step hc with hold | ⟨v, d, delay, late, rfl, hcheck⟩
  · exact h.readable c hold
  · obtain ⟨timestamp, sent, -, -, hmade⟩ := Verifier.check_eq_ok_iff.mp hcheck
    rw [hmade]
    exact hr d.now rfl

theorem Inv.after {s : Unsteady σ} (h : s.Inv) {steps : List Step}
    (hr : ∀ step ∈ steps, ∀ t ∈ step.now?, Readable σ t) : (s.after steps).Inv := by
  induction steps generalizing s with
  | nil => exact h
  | cons step steps ih =>
    exact ih (h.step (hr _ List.mem_cons_self)) fun a ha => hr a (List.mem_cons_of_mem _ ha)

/-- Whatever settles late was under way before, or the call for it stalled in the meantime. -/
theorem exists_stalls_of_settled {s : Unsteady σ} {steps : List Step} {c : Claim}
    (h : c ∈ s.settled steps) : c ∈ s.underWay ∨ ∃ step ∈ steps, step.Stalls c.nonce := by
  induction steps generalizing s with
  | nil => cases h
  | cons step steps ih =>
    rcases mem_settled_cons.mp h with hnow | hlater
    · exact Or.inl (settled?_eq_some_iff.mp hnow).2.1
    · rcases ih hlater with hmem | ⟨other, hother, hstalls⟩
      · rcases mem_underWay_step hmem with hold | ⟨v, d, delay, late, rfl, hcheck⟩
        · exact Or.inl hold
        · obtain ⟨timestamp, sent, hauth, -⟩ := Verifier.check_eq_ok_iff.mp hcheck
          exact Or.inr ⟨_, List.mem_cons_self, hauth.nonce_eq⟩
      · exact Or.inr ⟨other, List.mem_cons_of_mem _ hother, hstalls⟩

/-! ## What is held -/

/-- What is held after a verification was held before, unless the verification was accepted. -/
theorem holds_of_holds_verify {s : σ} {v : Verifier} {d : Delivery} {nonce : String} {t : Instant}
    (h : holds (v.verify s d).store nonce t = true) :
    holds s nonce t = true ∨
      (v.nonce? d.headers = some nonce ∧ (v.verify s d).verdict = .accepted) := by
  cases hcheck : v.check d with
  | error refusal =>
    rw [(Verifier.verify_of_refused s hcheck).2] at h
    exact Or.inl h
  | ok c =>
    rw [Verifier.store_of_check s hcheck, holds_claim_eq] at h
    split at h
    · next htakes =>
      obtain ⟨timestamp, sent, hauth, -⟩ := Verifier.check_eq_ok_iff.mp hcheck
      exact Or.inr ⟨hauth.nonce_eq.trans (congrArg some htakes.2.symm),
        (Verifier.verify_accepted_iff s v d).mpr ⟨c, hcheck, htakes.1⟩⟩
    · exact Or.inl h

/-- Why a nonce is held after a step at an instant: it was held before, or a call with it was
accepted, or a late claim has taken it until later. -/
theorem holds_of_holds_step {s : Unsteady σ} (hs : (ledger s.store).Distinct) {step : Step}
    {nonce : String} {t : Instant} (h : holds (s.step step).store nonce t = true) :
    holds s.store nonce t = true ∨
      (∃ a, s.call? step = some a ∧ a.nonce? = some nonce ∧ a.verdict = .accepted) ∨
      ∃ c, s.settled? step = some c ∧ c.nonce = nonce ∧ reading σ t < reading σ c.expiresAt := by
  cases step with
  | purge now =>
    change holds (NonceStore.purge s.store now).1 nonce t = true at h
    unfold holds at *
    rw [ledger_purge, hs.isLive_live, Bool.and_eq_true] at h
    exact Or.inl h.2
  | settle c =>
    change holds (s.settle c).store nonce t = true at h
    unfold settle at h
    split at h
    · next hmem =>
      change holds (NonceStore.claim s.store c).1 nonce t = true at h
      rw [holds_claim_eq] at h
      split at h
      · next htakes =>
        refine Or.inr (Or.inr ⟨c, ?_, htakes.2.symm, of_decide_eq_true h⟩)
        exact settled?_eq_some_iff.mpr ⟨rfl, hmem, htakes.1⟩
      · exact Or.inl h
    · exact Or.inl h
  | call v d service =>
    cases service with
    | failing cause => exact Or.inl h
    | stalled delay late => exact Or.inl h
    | prompt =>
      rcases holds_of_holds_verify h with hbefore | haccepted
      · exact Or.inl hbefore
      · exact Or.inr (Or.inl ⟨_, rfl, haccepted⟩)

theorem holds_of_holds_after {s : Unsteady σ} (hs : (ledger s.store).Distinct)
    {steps : List Step} {nonce : String} {t : Instant}
    (h : holds (s.after steps).store nonce t = true) :
    holds s.store nonce t = true ∨
      (∃ a ∈ s.calls steps, a.nonce? = some nonce ∧ a.verdict = .accepted) ∨
      ∃ c ∈ s.settled steps, c.nonce = nonce ∧ reading σ t < reading σ c.expiresAt := by
  induction steps generalizing s with
  | nil => exact Or.inl h
  | cons step steps ih =>
    rcases ih (distinct_step hs step) h with hheld | ⟨a, ha, hacc⟩ | ⟨c, hc, hlate⟩
    · rcases holds_of_holds_step hs hheld with hbefore | ⟨a, ha, hacc⟩ | ⟨c, hc, hlate⟩
      · exact Or.inl hbefore
      · exact Or.inr (Or.inl ⟨a, mem_calls_cons.mpr (Or.inl ha), hacc⟩)
      · exact Or.inr (Or.inr ⟨c, mem_settled_cons.mpr (Or.inl hc), hlate⟩)
    · exact Or.inr (Or.inl ⟨a, mem_calls_cons.mpr (Or.inr ha), hacc⟩)
    · exact Or.inr (Or.inr ⟨c, mem_settled_cons.mpr (Or.inr hc), hlate⟩)

variable [Std.IsLinearOrder τ] [Std.LawfulOrderLT τ]

/-- A step frees no nonce at an instant, unless it purges by a later one. -/
theorem holds_step {s : Unsteady σ} (hs : s.Inv) {step : Step} {nonce : String} {t : Instant}
    (h : holds s.store nonce t = true) (hr : ∀ t ∈ step.now?, Readable σ t)
    (hp : ∀ now, step = .purge now → now ≤ t) : holds (s.step step).store nonce t = true := by
  cases step with
  | purge now => exact holds_purge h (hr now rfl) (hp now rfl)
  | settle c =>
    show holds (s.settle c).store nonce t = true
    unfold settle
    split
    · next hc => exact holds_claim h (hs.readable c hc)
    · exact h
  | call v d service =>
    cases service with
    | prompt => exact Run.holds_verify h (hr _ rfl)
    | failing cause => exact h
    | stalled delay late => exact h

theorem holds_after {s : Unsteady σ} (hs : s.Inv) {steps : List Step} {nonce : String}
    {t : Instant} (h : holds s.store nonce t = true)
    (hr : ∀ step ∈ steps, ∀ t ∈ step.now?, Readable σ t)
    (hp : ∀ now, .purge now ∈ steps → now ≤ t) :
    holds (s.after steps).store nonce t = true := by
  induction steps generalizing s with
  | nil => exact h
  | cons step steps ih =>
    have hfirst := hr step List.mem_cons_self
    have hheld := holds_step hs h hfirst fun now heq => hp now (heq ▸ List.mem_cons_self)
    exact ih (hs.step hfirst) hheld (fun a ha => hr a (List.mem_cons_of_mem _ ha))
      fun now hnow => hp now (List.mem_cons_of_mem _ hnow)

/-- A claim that settles late holds its nonce until its expiry. -/
theorem holds_of_settled {s : Unsteady σ} (hs : s.Inv) {steps : List Step} {c : Claim}
    {t : Instant} (hc : c ∈ s.settled steps) (hlt : reading σ t < reading σ c.expiresAt)
    (hr : ∀ step ∈ steps, ∀ t ∈ step.now?, Readable σ t)
    (hp : ∀ now, .purge now ∈ steps → now ≤ t) :
    holds (s.after steps).store c.nonce t = true := by
  induction steps generalizing s with
  | nil => cases hc
  | cons step steps ih =>
    have hs' := hs.step (hr step List.mem_cons_self)
    have hr' : ∀ step ∈ steps, ∀ t ∈ step.now?, Readable σ t :=
      fun a ha => hr a (List.mem_cons_of_mem _ ha)
    have hp' : ∀ now, .purge now ∈ steps → now ≤ t :=
      fun now hnow => hp now (List.mem_cons_of_mem _ hnow)
    rcases mem_settled_cons.mp hc with hnow | hlater
    · obtain ⟨rfl, hmem, htakes⟩ := settled?_eq_some_iff.mp hnow
      refine holds_after hs' ?_ hr' hp'
      show holds (s.settle c).store c.nonce t = true
      unfold settle
      rw [if_pos hmem]
      exact holds_of_takes htakes hlt
    · exact ih hs' hlater hr' hp'

end Lawful

end Unsteady

end WebhookGuard

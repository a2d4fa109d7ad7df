import WebhookGuard.Proofs.Store.Distinct
import WebhookGuard.Simulation

/-
  Courses. In the course of time a store is asked to take nonces, whether nonces are claimed, and to
  purge itself. Each step brings a clock reading of its own, and readings may go back and forth.

  A store that began without records has at most one record for each nonce (`distinct_storeAfter`),
  and it stems from the claim on the nonce that was taken last (`exists_lastTaken`).
-/
namespace WebhookGuard

open LawfulStore

namespace Course

/-- What is asked of a store. -/
inductive Step where
  | claim (claim : Claim)
  /-- Whether a nonce is claimed at an instant. -/
  | query (nonce : String) (now : Instant)
  | purge (now : Instant)
deriving DecidableEq, Repr

inductive Answer where
  | claimed (reply : Reply)
  | live (isLive : Bool)
  | purged (count : Except StoreError Nat)

/-- The claim on a nonce that a step takes, if it does. -/
def taken? {σ : Type} [NonceStore σ] (s : σ) (nonce : String) : Step → Option Claim
  | .claim c =>
    if c.nonce = nonce ∧ Simulation.won (NonceStore.claim s c).2 = true then some c else none
  | .query .. | .purge _ => none

section Lawful

variable {σ τ : Type} [NonceStore σ] [LE τ] [LT τ] [DecidableRel (LT.lt : τ → τ → Prop)]
variable [LawfulStore σ τ]

/-- Takes a step. -/
def perform (s : σ) : Step → σ × Answer
  | .claim c => ((NonceStore.claim s c).1, .claimed (NonceStore.claim s c).2)
  | .query nonce now => (s, .live (holds s nonce now))
  | .purge now => ((NonceStore.purge s now).1, .purged (NonceStore.purge s now).2)

/-- The store after some steps. -/
def storeAfter (s : σ) : List Step → σ
  | [] => s
  | step :: steps => storeAfter (perform s step).1 steps

/-- The answers to some steps, in order. -/
def answers (s : σ) : List Step → List Answer
  | [] => []
  | step :: steps => (perform s step).2 :: answers (perform s step).1 steps

/-- The claim on a nonce that was taken last. -/
def lastTaken (s : σ) (nonce : String) : List Step → Option Claim
  | [] => none
  | step :: steps => (lastTaken (perform s step).1 nonce steps).or (taken? s nonce step)

theorem won_claim (s : σ) (c : Claim) : Simulation.won (NonceStore.claim s c).2 = takes s c := by
  rw [claim_snd]
  rfl

theorem distinct_perform {s : σ} (h : (ledger s).Distinct) (step : Step) :
    (ledger (perform s step).1).Distinct := by
  cases step with
  | claim c => exact distinct_claim h c
  | query nonce now => exact h
  | purge now => exact distinct_purge h now

theorem distinct_storeAfter {s : σ} (h : (ledger s).Distinct) (steps : List Step) :
    (ledger (storeAfter s steps)).Distinct := by
  induction steps generalizing s with
  | nil => exact h
  | cons step steps ih => exact ih (distinct_perform h step)

/-- A record after a step stems from the claim that the step takes, or was there before and the step
takes none. -/
theorem get?_perform {s : σ} (h : (ledger s).Distinct) {step : Step} {nonce : String} {expiry : τ}
    (hget : (ledger (perform s step).1).get? nonce = some expiry) :
    (∃ c, taken? s nonce step = some c ∧ expiry = reading σ c.expiresAt) ∨
      (taken? s nonce step = none ∧ (ledger s).get? nonce = some expiry) := by
  cases step with
  | claim c =>
    change (ledger (NonceStore.claim s c).1).get? nonce = some expiry at hget
    simp only [taken?, won_claim]
    cases ht : takes s c
    · rw [ledger_claim_of_not_takes ht] at hget
      exact Or.inr ⟨by simp, hget⟩
    · rw [ledger_claim_of_takes ht, Ledger.get?_put] at hget
      by_cases hn : c.nonce = nonce
      · rw [if_pos hn.symm] at hget
        exact Or.inl ⟨c, by simp [hn], (Option.some.inj hget).symm⟩
      · rw [if_neg (Ne.symm hn)] at hget
        exact Or.inr ⟨by simp [hn], hget⟩
  | query other now => exact Or.inr ⟨rfl, hget⟩
  | purge now =>
    change (ledger (NonceStore.purge s now).1).get? nonce = some expiry at hget
    rw [ledger_purge, h.get?_live, Option.filter_eq_some_iff] at hget
    exact Or.inr ⟨rfl, hget.1⟩

theorem get?_storeAfter {s : σ} (h : (ledger s).Distinct) {steps : List Step} {nonce : String}
    {expiry : τ} (hget : (ledger (storeAfter s steps)).get? nonce = some expiry) :
    (∃ c, lastTaken s nonce steps = some c ∧ expiry = reading σ c.expiresAt) ∨
      (lastTaken s nonce steps = none ∧ (ledger s).get? nonce = some expiry) := by
  induction steps generalizing s with
  | nil => exact Or.inr ⟨rfl, hget⟩
  | cons step steps ih =>
    simp only [lastTaken]
    rcases ih (distinct_perform h step) hget with ⟨c, hc, hexp⟩ | ⟨hnone, hbefore⟩
    · exact Or.inl ⟨c, by rw [hc, Option.some_or], hexp⟩
    · rw [hnone, Option.none_or]
      exact get?_perform h hbefore

/-- What a store has on record of a nonce is the expiry of the claim on it that was taken last. -/
theorem exists_lastTaken {s : σ} (h : ledger s = .empty) {steps : List Step} {nonce : String}
    {expiry : τ} (hget : (ledger (storeAfter s steps)).get? nonce = some expiry) :
    ∃ c, lastTaken s nonce steps = some c ∧ expiry = reading σ c.expiresAt := by
  have hdistinct : (ledger s).Distinct := by
    rw [h]
    exact Ledger.distinct_empty
  rcases get?_storeAfter hdistinct hget with hlast | ⟨-, hbefore⟩
  · exact hlast
  · rw [h] at hbefore
    cases hbefore

theorem exists_lastTaken_of_holds {s : σ} (h : ledger s = .empty) {steps : List Step}
    {nonce : String} {now : Instant} (hheld : holds (storeAfter s steps) nonce now = true) :
    ∃ c, lastTaken s nonce steps = some c ∧ reading σ now < reading σ c.expiresAt := by
  obtain ⟨expiry, hget, hlt⟩ := Ledger.isLive_iff.mp hheld
  obtain ⟨c, hc, rfl⟩ := exists_lastTaken h hget
  exact ⟨c, hc, hlt⟩

/-- A purge removes a record if and only if the claim that it stems from has expired, as far as the
store can tell. -/
theorem get?_purge_eq_none_iff {s : σ} (h : ledger s = .empty) {steps : List Step}
    {nonce : String} {c : Claim} (hlast : lastTaken s nonce steps = some c)
    (hrecord : (ledger (storeAfter s steps)).get? nonce ≠ none) (now : Instant) :
    (ledger (NonceStore.purge (storeAfter s steps) now).1).get? nonce = none ↔
      ¬ reading σ now < reading σ c.expiresAt := by
  have hdistinct : (ledger s).Distinct := by
    rw [h]
    exact Ledger.distinct_empty
  obtain ⟨expiry, hget⟩ := Option.ne_none_iff_exists'.mp hrecord
  obtain ⟨c', hlast', rfl⟩ := exists_lastTaken h hget
  obtain rfl : c' = c := Option.some.inj (hlast'.symm.trans hlast)
  rw [ledger_purge, (distinct_storeAfter hdistinct steps).get?_live, hget,
    Option.filter_eq_none_iff]
  simp

end Lawful

end Course

end WebhookGuard

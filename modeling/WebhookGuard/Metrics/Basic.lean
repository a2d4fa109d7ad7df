import WebhookGuard.Metrics.Histogram
import WebhookGuard.Verdict

/-
  Counters of a receiver: how many deliveries had each verdict, and how long verification took.
-/
namespace WebhookGuard

/-- The label of a verdict. -/
def Verdict.label : Verdict → String
  | accepted => "accepted"
  | rejected reason => reason.name

/-- All verdicts in the order of their labels. -/
def Verdict.all : List Verdict :=
  [ accepted, rejected .clockSkew, rejected .invalidTimestamp, rejected .messageTooOld,
    rejected .missingHeader, rejected .replay, rejected .signatureMismatch,
    rejected .storeUnavailable ]

/-- Counted verdicts, each with its count. -/
abbrev Tally := List (Verdict × Nat)

namespace Tally

/-- How often a verdict was counted. -/
def count (t : Tally) (v : Verdict) : Nat := (t.lookup v).getD 0

/-- Counts a verdict once more. -/
def add (v : Verdict) : Tally → Tally
  | [] => [(v, 1)]
  | (w, n) :: t => if v = w then (w, n + 1) :: t else (w, n) :: add v t

theorem count_cons (u v : Verdict) (n : Nat) (t : Tally) :
    count ((u, n) :: t) v = if v = u then n else count t v := by
  by_cases h : v = u
  · simp [count, h]
  · simp [count, List.lookup_cons, beq_false_of_ne h, h]

/-- Counting a verdict changes its own count alone. -/
theorem count_add (t : Tally) (v w : Verdict) :
    count (add v t) w = count t w + if w = v then 1 else 0 := by
  induction t with
  | nil => rw [add, count_cons]; simp [count]
  | cons p t ih =>
    obtain ⟨u, n⟩ := p
    by_cases hvu : v = u
    · subst hvu
      by_cases hw : w = v <;> simp [add, count_cons, hw]
    · by_cases hw : w = u
      · subst hw
        simp [add, count_cons, hvu, Ne.symm hvu]
      · simp [add, count_cons, hvu, hw, ih]

end Tally

/-- The counters. -/
structure Metrics where
  verdicts : Tally := []
  latency : Histogram
deriving DecidableEq, Repr

namespace Metrics

/-- The bounds of the buckets for the time that verification takes. -/
def latencyBounds : List Duration :=
  [ ⟨500000⟩, .ofMillis 1, ⟨2500000⟩, .ofMillis 5, .ofMillis 10, .ofMillis 50, .ofMillis 250,
    .ofSecs 1, .ofMillis 2500 ]

/-- Counters at the start. -/
def zero : Metrics := { latency := .empty latencyBounds }

/-- Counts a delivery with its verdict and the time that verification took. -/
def record (m : Metrics) (v : Verdict) (took : Duration) : Metrics :=
  { verdicts := m.verdicts.add v, latency := m.latency.observe took }

end Metrics

end WebhookGuard

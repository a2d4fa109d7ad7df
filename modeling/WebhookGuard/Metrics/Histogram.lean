import WebhookGuard.Time.Duration

/-
  Histograms of durations. For each of some bounds a histogram counts the observations that do not
  exceed it, so the counts grow with the bounds; beside them it keeps the sum of all observations
  and their number.
-/
namespace WebhookGuard

/-- Counts of observed durations. -/
structure Histogram where
  /-- For each bound, how many observations it covers. -/
  within : List (Duration × Nat)
  sum : Duration := .zero
  count : Nat := 0
deriving DecidableEq, Repr

namespace Histogram

/-- A histogram without observations. -/
def empty (bounds : List Duration) : Histogram :=
  { within := bounds.map fun bound => (bound, 0) }

/-- Adds an observation. -/
def observe (h : Histogram) (d : Duration) : Histogram :=
  { within := h.within.map fun (bound, n) => (bound, if d ≤ bound then n + 1 else n)
    sum := h.sum + d
    count := h.count + 1 }

@[simp] theorem count_observe (h : Histogram) (d : Duration) :
    (h.observe d).count = h.count + 1 := rfl

end Histogram

end WebhookGuard

import WebhookGuard.Time.Timer

/-
  Tickers, which are timers that go off again and again. Each tick that is taken sets the deadline
  of the next: a period after its own deadline, or, when it was taken so late that it counts as
  missed, a period after it was taken.
-/
namespace WebhookGuard

/-- A ticker. -/
structure Ticker where
  period : Duration
  /-- The deadline of the next tick. -/
  next : Duration
  /-- No period is shorter than a millisecond. -/
  one_le : Duration.ofMillis 1 ≤ period
deriving DecidableEq, Repr

namespace Ticker

/-- By how much a tick may be late and is not missed. -/
def tolerance : Duration := .ofMillis 5

/-- Takes the tick that is due. -/
def tick (t : Ticker) (now : Duration) : Ticker :=
  { t with next := if t.next + tolerance < now then now + t.period else t.next + t.period }

/-- The time of the next tick. -/
def wakes (t : Ticker) : Duration := Timer.goesOff t.next

theorem tick_of_lt {t : Ticker} {now : Duration} (h : now < t.next + .ofMillis 1) :
    t.tick now = { t with next := t.next + t.period } := by
  have hnot : ¬ t.next + tolerance < now := by
    change now.nanos < t.next.nanos + 1 * 1000000 at h
    change ¬ t.next.nanos + 5 * 1000000 < now.nanos
    omega
  rw [tick, if_neg hnot]

/-- A tick that is taken when it comes is not missed. -/
theorem tick_wakes (t : Ticker) : t.tick t.wakes = { t with next := t.next + t.period } :=
  tick_of_lt (Timer.goesOff_lt t.next)

/-- Once a tick has been taken, the next one comes later. -/
theorem wakes_lt_wakes_tick (t : Ticker) : t.wakes < (t.tick t.wakes).wakes := by
  have hperiod : 1 * 1000000 ≤ t.period.nanos := t.one_le
  rw [tick_wakes]
  change (t.next.nanos + 999999) / 1000000 * 1000000 <
    (t.next.nanos + t.period.nanos + 999999) / 1000000 * 1000000
  omega

end Ticker

end WebhookGuard

import WebhookGuard.Time.Duration

/-
  Timers. Time goes by on a clock that counts whole milliseconds: a timer goes off at the first of
  them that is not earlier than its deadline. No deadline is moved, be it the limit for an answer
  or the next sweep. One that lies beyond the range of the clock is not reached.

  It is sleeping that lets time pass, so a sleep ends within the range of the clock. One that the
  clock cannot count lasts thirty years.
-/
namespace WebhookGuard.Timer

/-- The millisecond at which a timer goes off. -/
def goesOff (deadline : Duration) : Duration := .ofMillis deadline.ceilMillis

/-- Whether the clock can count a sleep. It counts seconds below `2 ^ 63`, and the first of them
has passed when the sleep begins. -/
def isCountable (d : Duration) : Bool := decide (d.secs + 1 < 9223372036854775808)

/-- The sleep in place of one that the clock cannot count: thirty years of 365 days. -/
def longWait : Duration := .ofSecs (30 * 365 * 86400)

/-- The last millisecond that the clock comes to. -/
def lastMilli : Nat := 18446744073709551613

/-- How long a sleep takes that begins at a whole millisecond. -/
def wait (d : Duration) : Duration :=
  if isCountable d then .ofMillis (min d.ceilMillis lastMilli) else longWait

/-- A timer with a deadline in whole milliseconds is on time. -/
theorem goesOff_ofMillis (n : Nat) : goesOff (.ofMillis n) = .ofMillis n := by
  have hceil : (Duration.ofMillis n).ceilMillis = n := by
    simp only [Duration.ceilMillis, Duration.ofMillis]
    omega
  rw [goesOff, hceil]

/-- No timer is early. -/
theorem le_goesOff (deadline : Duration) : deadline ≤ goesOff deadline := by
  change deadline.nanos ≤ _
  simp only [goesOff, Duration.ofMillis, Duration.ceilMillis]
  omega

/-- No timer is a millisecond late. -/
theorem goesOff_lt (deadline : Duration) : goesOff deadline < deadline + .ofMillis 1 := by
  change (deadline.nanos + 999999) / 1000000 * 1000000 < deadline.nanos + 1 * 1000000
  omega

/-- Every sleep takes whole milliseconds, and the clock comes to its end. -/
theorem exists_wait (d : Duration) : ∃ n ≤ lastMilli, wait d = .ofMillis n := by
  unfold wait
  split
  · exact ⟨_, Nat.min_le_right _ _, rfl⟩
  · exact ⟨946080000000, by decide, by decide⟩

/-- A sleep of whole milliseconds takes what it asks for. -/
theorem wait_ofMillis {n : Nat} (h : n ≤ lastMilli) : wait (.ofMillis n) = .ofMillis n := by
  have hs : isCountable (.ofMillis n) = true := by
    refine decide_eq_true ?_
    simp only [Duration.secs, Duration.ofMillis, lastMilli] at *
    omega
  have hm : (Duration.ofMillis n).ceilMillis = n := by
    simp only [Duration.ceilMillis, Duration.ofMillis]
    omega
  rw [wait, if_pos hs, hm, Nat.min_eq_left h]

/-- A sleep that the clock can count does not end early. -/
theorem le_wait {d : Duration} (h : isCountable d = true) (hm : d.ceilMillis ≤ lastMilli) :
    d ≤ wait d := by
  rw [wait, if_pos h, Nat.min_eq_left hm]
  exact le_goesOff d

end WebhookGuard.Timer

import WebhookGuard.Store.Basic
import WebhookGuard.Store.Shared
import WebhookGuard.Time.Ticker

/-
  Sweepers. A sweeper is a loop: it waits for the next tick of its ticker, gets hold of its store,
  purges it, and lets go of it again. It has only a weak reference in between, so it does not keep
  the store alive, and at the first tick that finds the store gone it ends. A purge that fails or
  removes nothing does not end it.
-/
namespace WebhookGuard

/-- A sweeper between two turns of its loop. -/
structure Sweeper where
  ticker : Ticker
  store : Weak
  finished : Bool := false
deriving DecidableEq, Repr

namespace Sweeper

/-- The time between two sweeps. No period is shorter than a millisecond. -/
def period (interval : Duration) : Duration := interval.max (.ofMillis 1)

theorem one_le_period (interval : Duration) : Duration.ofMillis 1 ≤ period interval := by
  unfold period Duration.max
  split
  · exact Nat.le_refl _
  · next h => exact Nat.le_of_not_lt h

/-- Starts a sweeper. The first tick comes at once, and nothing is swept at it. -/
def start (interval : Duration) (store : Weak) (now : Duration) : Sweeper where
  ticker := Ticker.tick ⟨period interval, now, one_le_period interval⟩ now
  store

/-- When the sweeper goes on, unless it has ended. -/
def wakes? (s : Sweeper) : Option Duration := if s.finished then none else some s.ticker.wakes

/-- What a purge reports: nothing when it removed nothing. -/
def report : Except StoreError Nat → List Event
  | .ok 0 => []
  | .ok (n + 1) => [.purged (n + 1)]
  | .error e => [.sweepFailed e]

/-- One turn of the loop, at a tick that is taken at `time`, when the clock on the wall shows
`now`. -/
def turn {σ : Type} [NonceStore σ] (s : Sweeper) (shared : Shared σ) (time : Duration)
    (now : Instant) : Sweeper × Shared σ × List Event :=
  let ticker := s.ticker.tick time
  match shared.upgrade? s.store with
  | none => ({ s with ticker, finished := true }, shared, [.storeDropped])
  | some held =>
    let (store, count) := NonceStore.purge held.value now
    ({ s with ticker }, { held with value := store }.release 1, report count)

/-- A turn for each of some sweepers whose tick comes at `time`, one after the other. -/
def turns {σ : Type} [NonceStore σ] (time : Duration) (now : Instant) :
    List Sweeper → Shared σ → List Sweeper × Shared σ × List Event
  | [], shared => ([], shared, [])
  | s :: rest, shared =>
    let (s, shared, events) :=
      if s.wakes? = some time then s.turn shared time now else (s, shared, [])
    let (rest, shared, later) := turns time now rest shared
    (s :: rest, shared, events ++ later)

/-- When the first of some sweepers goes on. -/
def nextWake? : List Sweeper → Option Duration
  | [] => none
  | s :: rest => Option.merge Duration.min s.wakes? (nextWake? rest)

/-! ## Going on -/

theorem wakes?_eq_some_iff {s : Sweeper} {wake : Duration} :
    s.wakes? = some wake ↔ s.finished = false ∧ s.ticker.wakes = wake := by
  unfold wakes?
  cases s.finished <;> simp

/-- The first time is that of one of the sweepers. -/
theorem exists_of_nextWake? {sweepers : List Sweeper} {time : Duration}
    (h : nextWake? sweepers = some time) : ∃ s ∈ sweepers, s.wakes? = some time := by
  induction sweepers generalizing time with
  | nil => cases h
  | cons s rest ih =>
    rw [nextWake?] at h
    rcases Option.merge_eq_or_eq Duration.min_eq_or_eq s.wakes? (nextWake? rest) with heq | heq
    · exact ⟨s, List.mem_cons_self, heq ▸ h⟩
    · obtain ⟨other, hmem, hwake⟩ := ih (heq ▸ h)
      exact ⟨other, List.mem_cons_of_mem _ hmem, hwake⟩

/-- The first time is not later than that of any of the sweepers. -/
theorem exists_nextWake?_le {sweepers : List Sweeper} {s : Sweeper} {wake : Duration}
    (hs : s ∈ sweepers) (hwake : s.wakes? = some wake) :
    ∃ time, nextWake? sweepers = some time ∧ time ≤ wake := by
  induction sweepers with
  | nil => cases hs
  | cons head rest ih =>
    rw [nextWake?]
    rcases List.mem_cons.mp hs with rfl | hs
    · rw [hwake]
      cases nextWake? rest with
      | none => exact ⟨wake, rfl, Nat.le_refl _⟩
      | some first => exact ⟨wake.min first, rfl, Duration.min_le_left ..⟩
    · obtain ⟨first, hfirst, hle⟩ := ih hs
      rw [hfirst]
      cases head.wakes? with
      | none => exact ⟨first, rfl, hle⟩
      | some other => exact ⟨other.min first, rfl, Nat.le_trans (Duration.min_le_right ..) hle⟩

variable {σ : Type} [NonceStore σ]

/-- After a turn a sweeper does not go on at once. -/
theorem lt_wakes_turn {s : Sweeper} {time wake : Duration}
    (h : s.wakes? = some time) (shared : Shared σ) (now : Instant)
    (hwake : (s.turn shared time now).1.wakes? = some wake) : time < wake := by
  obtain ⟨-, rfl⟩ := wakes?_eq_some_iff.mp h
  obtain ⟨-, rfl⟩ := wakes?_eq_some_iff.mp hwake
  have hticker : (s.turn shared s.ticker.wakes now).1.ticker = s.ticker.tick s.ticker.wakes := by
    unfold turn
    cases shared.upgrade? s.store <;> rfl
  rw [hticker]
  exact s.ticker.wakes_lt_wakes_tick

theorem turns_of_due {s : Sweeper} {time : Duration} (h : s.wakes? = some time) (now : Instant)
    (rest : List Sweeper) (shared : Shared σ) :
    turns time now (s :: rest) shared =
      let turned := s.turn shared time now
      let others := turns time now rest turned.2.1
      (turned.1 :: others.1, others.2.1, turned.2.2 ++ others.2.2) := by
  rw [turns, if_pos h]

theorem turns_of_not_due {s : Sweeper} {time : Duration} (h : s.wakes? ≠ some time) (now : Instant)
    (rest : List Sweeper) (shared : Shared σ) :
    turns time now (s :: rest) shared =
      let others := turns time now rest shared
      (s :: others.1, others.2) := by
  rw [turns, if_neg h]
  rfl

/-- When some sweepers have had their turns at a time, each of them goes on later. -/
theorem lt_wakes_turns {sweepers : List Sweeper} {time wake : Duration}
    (h : ∀ s ∈ sweepers, ∀ wake, s.wakes? = some wake → time ≤ wake) (shared : Shared σ)
    (now : Instant) {s : Sweeper} (hs : s ∈ (turns time now sweepers shared).1)
    (hwake : s.wakes? = some wake) : time < wake := by
  induction sweepers generalizing shared with
  | nil => cases hs
  | cons head rest ih =>
    have hrest := ih fun s hmem => h s (List.mem_cons_of_mem _ hmem)
    by_cases hdue : head.wakes? = some time
    · rw [turns_of_due hdue] at hs
      rcases List.mem_cons.mp hs with rfl | hmem
      · exact lt_wakes_turn hdue shared now hwake
      · exact hrest _ hmem
    · rw [turns_of_not_due hdue] at hs
      rcases List.mem_cons.mp hs with rfl | hmem
      · have hne : time.nanos ≠ wake.nanos := fun heq =>
          hdue (hwake.trans (congrArg (some ∘ Duration.mk) heq.symm))
        exact Nat.lt_of_le_of_ne (h _ List.mem_cons_self wake hwake) hne
      · exact hrest _ hmem

/-- When the first sweepers have had their turns, the next of all goes on later. -/
theorem lt_nextWake?_turns {sweepers : List Sweeper} {time later : Duration}
    (h : nextWake? sweepers = some time) {shared : Shared σ}
    {now : Instant} (hlater : nextWake? (turns time now sweepers shared).1 = some later) :
    time < later := by
  obtain ⟨s, hmem, hwake⟩ := exists_of_nextWake? hlater
  refine lt_wakes_turns (fun other hother wake hw => ?_) shared now hmem hwake
  obtain ⟨first, hfirst, hle⟩ := exists_nextWake?_le hother hw
  obtain rfl := Option.some.inj (h.symm.trans hfirst)
  exact hle

end Sweeper

end WebhookGuard

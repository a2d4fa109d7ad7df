import WebhookGuard.Simulation

/-
  The loop of a sweeper. Between two turns a sweeper at work waits for the first tick after the
  clock, and ticks come one period after its start, two periods after it, and so on (`Awaits`). A
  turn takes that tick, purges the store if it is there, and waits for the next (`Awaits.turn`).
  The sweeper holds the store in between two turns as little as before the first.
-/
namespace WebhookGuard

/-- A duration of whole milliseconds. -/
def Duration.IsWhole (d : Duration) : Prop := 1000000 ∣ d.nanos

theorem Duration.isWhole_ofMillis (n : Nat) : (ofMillis n).IsWhole := Nat.dvd_mul_left ..

theorem Duration.IsWhole.add {a b : Duration} (ha : a.IsWhole) (hb : b.IsWhole) :
    (a + b).IsWhole := Nat.dvd_add ha hb

theorem Timer.goesOff_of_isWhole {d : Duration} (h : d.IsWhole) : goesOff d = d := by
  obtain ⟨n, hn⟩ := h
  have hmillis : d = .ofMillis n := congrArg Duration.mk (hn.trans (Nat.mul_comm ..))
  rw [hmillis, goesOff_ofMillis]

theorem Timer.isWhole_wait (d : Duration) : (wait d).IsWhole := by
  obtain ⟨n, -, hn⟩ := exists_wait d
  rw [hn]
  exact Duration.isWhole_ofMillis n

namespace Sweeper

/-! ## Ticks -/

/-- A time is a positive number of periods after the start. -/
def IsDue (start period time : Duration) : Prop :=
  ∃ k, 1 ≤ k ∧ time.nanos = start.nanos + k * period.nanos

/-- A sweeper at work that has taken the ticks up to the clock. The next is due within a period. -/
structure Awaits (s : Sweeper) (start period clock : Duration) : Prop where
  working : s.finished = false
  period_eq : s.ticker.period = period
  start_whole : start.IsWhole
  period_whole : period.IsWhole
  due : IsDue start period s.ticker.next
  clock_lt : clock < s.ticker.next
  next_le : s.ticker.next ≤ clock + period

variable {s : Sweeper} {start period clock time : Duration}

/-- Ticks come in whole milliseconds. -/
theorem Awaits.wakes_eq (h : s.Awaits start period clock) : s.ticker.wakes = s.ticker.next := by
  obtain ⟨k, -, hk⟩ := h.due
  have hwhole : s.ticker.next.IsWhole := by
    unfold Duration.IsWhole
    rw [hk]
    exact Nat.dvd_add h.start_whole (Nat.dvd_mul_left_of_dvd h.period_whole k)
  exact Timer.goesOff_of_isWhole hwhole

theorem Awaits.wakes?_eq (h : s.Awaits start period clock) : s.wakes? = some s.ticker.next :=
  wakes?_eq_some_iff.mpr ⟨h.working, h.wakes_eq⟩

/-- Nothing is due after the clock and before the next tick. -/
theorem Awaits.next_le_of_due (h : s.Awaits start period clock) (hdue : IsDue start period time)
    (hlt : clock < time) : s.ticker.next ≤ time := by
  obtain ⟨k, hk, hnext⟩ := h.due
  obtain ⟨j, hj, htime⟩ := hdue
  have hle : s.ticker.next.nanos ≤ clock.nanos + period.nanos := h.next_le
  rw [Duration.lt_iff, htime] at hlt
  rw [hnext] at hle
  have hkj : k ≤ j := by
    refine Nat.le_of_not_lt fun hjk => ?_
    have hmul : (j + 1) * period.nanos ≤ k * period.nanos := Nat.mul_le_mul_right _ hjk
    rw [Nat.succ_mul] at hmul
    omega
  rw [Duration.le_iff, hnext, htime]
  exact Nat.add_le_add_left (Nat.mul_le_mul_right _ hkj) _

theorem Awaits.not_due_of_lt (h : s.Awaits start period clock) {limit : Duration}
    (hlt : limit < s.ticker.next) (hdue : IsDue start period time) (hafter : clock < time) :
    ¬ time ≤ limit :=
  fun hle => Nat.not_lt.mpr (Nat.le_trans (h.next_le_of_due hdue hafter) hle) hlt

/-- A time that is not due comes before or after the next tick. -/
theorem Awaits.lt_next (h : s.Awaits start period clock) (htime : ¬ IsDue start period time)
    (hlate : ¬ s.ticker.next < time) : time < s.ticker.next := by
  obtain ⟨k, hk, hnext⟩ := h.due
  refine Nat.lt_of_le_of_ne (Nat.le_of_not_lt hlate) fun heq => ?_
  exact htime ⟨k, hk, heq.trans hnext⟩

/-- It waits for the same tick until that comes. -/
theorem Awaits.mono (h : s.Awaits start period clock) (hle : clock ≤ time)
    (hlt : time < s.ticker.next) : s.Awaits start period time :=
  { h with
    clock_lt := hlt
    next_le := Nat.le_trans h.next_le (Nat.add_le_add_right hle _) }

/-! ## Turns -/

variable {σ : Type} [NonceStore σ]

/-- A sweeper that takes a tick when it comes gets hold of a store that is there, purges it and lets
go of it. Whatever comes of the purge, it waits for the tick after the next period. -/
theorem Awaits.turn (h : s.Awaits start period clock) {shared : Shared σ}
    (hstore : s.store = shared.weaken) (hheld : shared.isHeld = true) (now : Instant) :
    ∃ s' : Sweeper, s'.Awaits start period s.ticker.next ∧ s'.store = s.store ∧
      s.turn shared s.ticker.next now =
        (s', { shared with value := (NonceStore.purge shared.value now).1 },
          report (NonceStore.purge shared.value now).2) := by
  have htick : s.ticker.tick s.ticker.next =
      { s.ticker with next := s.ticker.next + s.ticker.period } := by
    rw [← h.wakes_eq, Ticker.tick_wakes, h.wakes_eq]
  have hperiod : 1 * 1000000 ≤ s.ticker.period.nanos := s.ticker.one_le
  refine ⟨{ s with ticker := s.ticker.tick s.ticker.next }, ?_, rfl, ?_⟩
  · obtain ⟨k, hk, hnext⟩ := h.due
    rw [htick]
    refine ⟨h.working, h.period_eq, h.start_whole, h.period_whole, ⟨k + 1, by omega, ?_⟩, ?_, ?_⟩
    · change s.ticker.next.nanos + s.ticker.period.nanos = _
      rw [hnext, h.period_eq, Nat.succ_mul, Nat.add_assoc]
    · exact Nat.lt_add_of_pos_right (by omega)
    · rw [← h.period_eq]
      exact Nat.le_refl _
  · have hupgrade : shared.upgrade? s.store =
        some { shared with holders := shared.holders + 1 } := by
      unfold Shared.upgrade?
      rw [if_pos ⟨hstore, hheld⟩]
    unfold Sweeper.turn
    rw [hupgrade]
    rfl

/-- A sweeper whose store is gone ends. -/
theorem turn_of_gone (s : Sweeper) {shared : Shared σ} (hgone : shared.isHeld = false)
    (time : Duration) (now : Instant) :
    s.turn shared time now =
      ({ s with ticker := s.ticker.tick time, finished := true }, shared, [.storeDropped]) := by
  have hupgrade : shared.upgrade? s.store = none := by
    unfold Shared.upgrade?
    rw [hgone]
    exact if_neg fun h => Bool.noConfusion h.2
  unfold turn
  rw [hupgrade]

end Sweeper

/-! ## Runs with one sweeper -/

namespace Simulation

variable {s : Simulation} {sweeper : Sweeper} {time wake : Duration}

theorem nextWake?_eq (h : s.sweepers = [sweeper]) :
    Sweeper.nextWake? s.sweepers = sweeper.wakes? := by
  rw [h]
  exact Option.merge_none_right

theorem turns_eq (h : s.sweepers = [sweeper]) (hwake : sweeper.wakes? = some wake)
    {turned : Sweeper × Shared Store × List Event}
    (hturn : sweeper.turn s.shared wake (s.wall wake) = turned) :
    s.turns wake =
      ({ s with sweepers := [turned.1], shared := turned.2.1, clock := wake }, turned.2.2) := by
  unfold turns
  rw [h, Sweeper.turns_of_due hwake, hturn]
  simp only [Sweeper.turns, List.append_nil]

theorem runUntil_of_lt (h : s.sweepers = [sweeper]) (hwake : sweeper.wakes? = some wake)
    (hlt : wake < time) (latest : List Event) :
    s.runUntil time latest =
      (s.turns wake).1.runUntil time ((s.turns wake).2.reverse ++ latest) := by
  have hnext : Sweeper.nextWake? s.sweepers = some wake := (nextWake?_eq h).trans hwake
  rw [runUntil]
  split
  · next hnone => cases hnext.symm.trans hnone
  · next first hfirst =>
    obtain rfl := Option.some.inj (hnext.symm.trans hfirst)
    rw [dif_pos hlt]

theorem runUntil_of_not_lt (h : s.sweepers = [sweeper])
    (hlate : sweeper.finished = false → ¬ sweeper.ticker.wakes < time) (latest : List Event) :
    s.runUntil time latest = (s, latest) := by
  rw [runUntil]
  split
  · rfl
  · next first hfirst =>
    rw [nextWake?_eq h] at hfirst
    obtain ⟨hwork, rfl⟩ := Sweeper.wakes?_eq_some_iff.mp hfirst
    rw [dif_neg (hlate hwork)]

theorem pass_eq {s' : Simulation} {d : Duration} {events : List Event}
    (h : s.runUntil (s.clock + Timer.wait d) [] = (s', events.reverse ++ [])) :
    s.pass d = ({ s' with clock := s.clock + Timer.wait d }, events) := by
  simp only [pass, h, List.append_nil, List.reverse_reverse]

end Simulation

end WebhookGuard

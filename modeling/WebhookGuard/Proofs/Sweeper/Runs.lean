import WebhookGuard.Proofs.Sweeper.Turns

/-
  Runs. Whatever the sweepers do while time passes, the store is in the same hands afterwards, and
  the run has the same verifiers and the same clock on the wall (`framed_pass`). So in every run
  the clock counts whole milliseconds, and a store that is there is held by the run and by the
  verifiers that were built, and by nobody else (`regular_after`).
-/
namespace WebhookGuard

/-! ## Turns leave the store in the same hands -/

namespace Sweeper

variable {σ : Type} [NonceStore σ]

/-- A turn lets go of the store that it got hold of. -/
theorem turn_holders (s : Sweeper) (shared : Shared σ) (time : Duration) (now : Instant) :
    (s.turn shared time now).2.1.holders = shared.holders := by
  unfold turn
  cases hupgrade : shared.upgrade? s.store with
  | none => rfl
  | some held =>
    unfold Shared.upgrade? at hupgrade
    split at hupgrade
    · obtain rfl := Option.some.inj hupgrade
      exact Nat.add_sub_cancel ..
    · cases hupgrade

theorem turns_holders (sweepers : List Sweeper) (shared : Shared σ) (time : Duration)
    (now : Instant) : (turns time now sweepers shared).2.1.holders = shared.holders := by
  induction sweepers generalizing shared with
  | nil => rfl
  | cons s rest ih =>
    by_cases hdue : s.wakes? = some time
    · rw [turns_of_due hdue]
      exact (ih _).trans (s.turn_holders shared time now)
    · rw [turns_of_not_due hdue]
      exact ih shared

end Sweeper

namespace Simulation

/-! ## Passing time -/

/-- What stays as it is in a run while time passes. -/
structure Framed (s s' : Simulation) : Prop where
  holders_eq : s'.shared.holders = s.shared.holders
  verifiers_eq : s'.verifiers = s.verifiers
  wall_eq : s'.wall = s.wall

theorem Framed.trans {s s' s'' : Simulation} (h : s.Framed s') (h' : s'.Framed s'') :
    s.Framed s'' where
  holders_eq := h'.holders_eq.trans h.holders_eq
  verifiers_eq := h'.verifiers_eq.trans h.verifiers_eq
  wall_eq := h'.wall_eq.trans h.wall_eq

theorem framed_turns (s : Simulation) (time : Duration) : s.Framed (s.turns time).1 where
  holders_eq := Sweeper.turns_holders s.sweepers s.shared time (s.wall time)
  verifiers_eq := rfl
  wall_eq := rfl

theorem framed_runUntil (s : Simulation) (time : Duration) (latest : List Event) :
    s.Framed (s.runUntil time latest).1 := by
  fun_induction runUntil time s latest with
  | case1 s latest hnone => exact ⟨rfl, rfl, rfl⟩
  | case2 s latest wake hwake hlt hless turned ih => exact (s.framed_turns wake).trans ih
  | case3 s latest wake hwake hlate => exact ⟨rfl, rfl, rfl⟩

theorem framed_pass (s : Simulation) (d : Duration) : s.Framed (s.pass d).1 :=
  let ⟨hholders, hverifiers, hwall⟩ := s.framed_runUntil (s.clock + Timer.wait d) []
  ⟨hholders, hverifiers, hwall⟩

theorem clock_pass (s : Simulation) (d : Duration) :
    (s.pass d).1.clock = s.clock + Timer.wait d := rfl

/-! ## Runs -/

/-- The run after some steps. -/
def after (s : Simulation) : List Step → Simulation
  | [] => s
  | step :: steps => (s.step step).1.after steps

/-- What some steps report, in order. -/
def reports (s : Simulation) : List Step → List Event
  | [] => []
  | step :: steps => (s.step step).2.2 ++ (s.step step).1.reports steps

/-- What holds in every run. -/
structure Regular (s : Simulation) : Prop where
  clock_whole : s.clock.IsWhole
  /-- The store is held by the run and its verifiers, or by nobody. -/
  held : s.shared.holders = hands s.verifiers ∨ s.shared.holders = 0 ∧ s.verifiers = []

theorem Regular.hands_eq {s : Simulation} (h : s.Regular) (hopen : s.isOpen = true) :
    s.shared.holders = hands s.verifiers :=
  h.held.resolve_right fun hgone => absurd (of_decide_eq_true hopen) (hgone.1 ▸ Nat.lt_irrefl 0)

theorem Regular.verifiers_eq {s : Simulation} (h : s.Regular) (hopen : s.isOpen = false) :
    s.verifiers = [] := by
  have hnone : ¬ 0 < s.shared.holders := of_decide_eq_false hopen
  rcases h.held with hheld | ⟨-, hverifiers⟩
  · unfold hands at hheld
    omega
  · exact hverifiers

theorem regular_start (store : Store) (options : List Options) (wall : Instant) :
    (start store options wall).Regular :=
  ⟨Nat.dvd_zero _, Or.inl rfl⟩

theorem Regular.pass {s : Simulation} (h : s.Regular) (d : Duration) : (s.pass d).1.Regular := by
  obtain ⟨hholders, hverifiers, -⟩ := s.framed_pass d
  refine ⟨?_, ?_⟩
  · rw [clock_pass]
    exact h.clock_whole.add (Timer.isWhole_wait d)
  · rw [hholders, hverifiers]
    exact h.held

theorem Regular.withStore {s : Simulation} (h : s.Regular) (store : Store) :
    (s.withStore store).Regular :=
  ⟨h.clock_whole, h.held⟩

theorem Regular.stepOpen {s : Simulation} (h : s.Regular) (hopen : s.isOpen = true) (step : Step) :
    (s.stepOpen step).1.Regular := by
  cases step with
  | verify i d =>
    show (s.verify i d).1.Regular
    unfold verify
    split
    · exact (h.withStore _).pass _
    · exact h
  | claim c => exact (h.withStore _).pass _
  | purge now => exact h.withStore _
  | race c n => exact (h.withStore _).pass _
  | isClaimed nonce now =>
    unfold Simulation.stepOpen
    cases s.store.memory? <;> exact h
  | size =>
    unfold Simulation.stepOpen
    cases s.store.memory? <;> exact h
  | startSweeper interval => exact ⟨h.clock_whole, h.held⟩
  | advance d => exact h.pass d
  | drop =>
    refine ⟨h.clock_whole, Or.inr ⟨?_, rfl⟩⟩
    show s.shared.holders - hands s.verifiers = 0
    rw [h.hands_eq hopen, Nat.sub_self]
  | reopen => exact ⟨h.clock_whole, Or.inl rfl⟩

theorem Regular.step {s : Simulation} (h : s.Regular) (step : Step) : (s.step step).1.Regular := by
  cases hopen : s.isOpen with
  | true =>
    unfold Simulation.step
    rw [hopen]
    exact h.stepOpen hopen step
  | false =>
    unfold Simulation.step
    rw [hopen]
    cases step with
    | advance d => exact h.pass d
    | reopen => exact ⟨h.clock_whole, Or.inl (congrArg hands (h.verifiers_eq hopen).symm)⟩
    | _ => exact h

theorem Regular.after {s : Simulation} (h : s.Regular) (steps : List Step) :
    (s.after steps).Regular := by
  induction steps generalizing s with
  | nil => exact h
  | cons step steps ih => exact ih (h.step step)

theorem regular_after (store : Store) (options : List Options) (wall : Instant)
    (steps : List Step) : ((start store options wall).after steps).Regular :=
  (regular_start store options wall).after steps

end Simulation

end WebhookGuard

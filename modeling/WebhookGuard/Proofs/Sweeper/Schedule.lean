import WebhookGuard.Proofs.Store.LawfulStore
import WebhookGuard.Proofs.Sweeper.Runs
import WebhookGuard.Proofs.Sweeper.Timeline

/-
  The schedule of a sweeper. When its tick comes, a sweeper whose store is held sweeps it and waits
  for the next tick (`Sweeps.turns`), so by induction it sweeps whenever it is due while the clock
  runs (`Sweeps.runUntil`). One step of a run makes its claim and the sweeps that fall into the time
  it takes, and nothing else (`Sweeps.step`); so what happens in a run is a timeline of its claims
  and of the sweeps that are due (`Sweeps.after`). Once the store is let go, nothing happens to it,
  and the sweeper ends at the first time at which it is due (`Abandoned.after`).
-/
namespace WebhookGuard

open LawfulStore

namespace Simulation

/-! ## Claims and waits -/

/-- A step that makes a claim or lets time pass. -/
def Step.IsPlain : Step → Prop
  | claim _ | advance _ => True
  | _ => False

instance (step : Step) : Decidable step.IsPlain :=
  match step with
  | .claim _ | .advance _ => isTrue trivial
  | .verify .. | .purge _ | .race .. | .isClaimed .. | .size | .startSweeper _ | .drop | .reopen =>
    isFalse id

/-- The claims among some steps, each with the time at which it is made. -/
def timedClaims (s : Simulation) : List Step → List (Duration × Claim)
  | [] => []
  | .claim c :: steps => (s.clock, c) :: (s.step (.claim c)).1.timedClaims steps
  | step :: steps => (s.step step).1.timedClaims steps

/-- The run is at none of some times, now and after each of some steps. -/
def Misses (s : Simulation) (due : Duration → Prop) : List Step → Prop
  | [] => ¬ due s.clock
  | step :: steps => ¬ due s.clock ∧ (s.step step).1.Misses due steps

theorem Misses.head {s : Simulation} {due : Duration → Prop} {steps : List Step}
    (h : s.Misses due steps) : ¬ due s.clock := by
  cases steps with
  | nil => exact h
  | cons step steps => exact h.1

end Simulation

/-! ## While the store is held -/

theorem Store.filter_claim_events (s : Store) (c : Claim) :
    (NonceStore.claim s c).2.events.filter Event.isOfSweeper = [] := by
  rcases s.claim_events c with h | ⟨-, h⟩ <;> rw [h] <;> rfl

namespace Simulation

/-- A run with one sweeper, which is at work for the store of the run. The store is in the hands of
the run and of its verifiers and in no other. -/
structure Sweeps (s : Simulation) (wall : Duration → Instant) (start period : Duration)
    (sweeper : Sweeper) : Prop where
  wall_eq : s.wall = wall
  hands_eq : s.shared.holders = hands s.verifiers
  sweepers_eq : s.sweepers = [sweeper]
  store_eq : sweeper.store = s.shared.weaken
  awaits : sweeper.Awaits start period s.clock

/-- A run from one time to a later one, with a sweeper at work. The claims are made, the store is
swept whenever a sweep is due, and it is in as many hands as before. -/
structure Swept (s s' : Simulation) (wall : Duration → Instant) (start period : Duration)
    (claims : List (Duration × Claim)) (reports : List Event) : Prop where
  sweeps : ∃ sweeper, s'.Sweeps wall start period sweeper
  holders_eq : s'.shared.holders = s.shared.holders
  course : ∃ course, Timeline wall (Sweeper.IsDue start period) s.clock s'.clock claims s.store
    s'.store reports course

variable {s s' s'' : Simulation} {wall : Duration → Instant} {start period time : Duration}
variable {sweeper : Sweeper}

theorem Swept.trans {claims claims' : List (Duration × Claim)} {reports reports' : List Event}
    (h : Swept s s' wall start period claims reports)
    (h' : Swept s' s'' wall start period claims' reports') :
    Swept s s'' wall start period (claims ++ claims') (reports ++ reports') := by
  obtain ⟨first, hfirst⟩ := h.course
  obtain ⟨rest, hrest⟩ := h'.course
  exact ⟨h'.sweeps, h'.holders_eq.trans h.holders_eq, first ++ rest, hfirst.append hrest⟩

theorem isOpen_of_hands (h : s.shared.holders = hands s.verifiers) : s.isOpen = true := by
  refine decide_eq_true ?_
  rw [h]
  exact Nat.lt_of_lt_of_le Nat.one_pos (Nat.le_add_right ..)

/-- When the tick of the sweeper comes, it sweeps. -/
theorem Sweeps.turns (h : s.Sweeps wall start period sweeper) :
    Swept s (s.turns sweeper.ticker.next).1 wall start period []
      (s.turns sweeper.ticker.next).2 := by
  obtain rfl := h.wall_eq
  obtain ⟨sweeper', hawaits, hstore, hturn⟩ :=
    h.awaits.turn h.store_eq (isOpen_of_hands h.hands_eq) (s.wall sweeper.ticker.next)
  rw [turns_eq h.sweepers_eq h.awaits.wakes?_eq hturn]
  refine ⟨⟨sweeper', rfl, h.hands_eq, rfl, hstore.trans h.store_eq, hawaits⟩, rfl,
    [.swept sweeper.ticker.next], ?_⟩
  exact Timeline.sweep s.wall s.store h.awaits.clock_lt h.awaits.due fun time hdue hlt =>
    h.awaits.next_le_of_due hdue hlt

/-- Until its tick comes, the sweeper does nothing. -/
theorem Sweeps.idle (h : s.Sweeps wall start period sweeper) (hle : s.clock ≤ time)
    (hlt : time < sweeper.ticker.next) :
    Swept s { s with clock := time } wall start period [] [] := by
  refine ⟨⟨sweeper, h.wall_eq, h.hands_eq, h.sweepers_eq, h.store_eq, h.awaits.mono hle hlt⟩, rfl,
    [], Timeline.idle wall s.store hle fun due hdue hafter => ?_⟩
  exact h.awaits.not_due_of_lt hlt hdue hafter

/-- While the clock runs, the sweeper sweeps whenever it is due. -/
theorem Sweeps.runUntil (h : s.Sweeps wall start period sweeper) (hle : s.clock ≤ time)
    (hend : ¬ Sweeper.IsDue start period time) (latest : List Event) :
    ∃ s' events, s.runUntil time latest = (s', events.reverse ++ latest) ∧
      Swept s { s' with clock := time } wall start period [] events := by
  -- A tick that comes in time is taken, and leaves less time for those after it.
  induction hn : s.timeLeft time using Nat.strongRecOn generalizing s sweeper latest with
  | ind n ih =>
    by_cases hlt : sweeper.ticker.next < time
    · have hturned := h.turns
      obtain ⟨sweeper', hnext⟩ := hturned.sweeps
      have hless : (s.turns sweeper.ticker.next).1.timeLeft time < n := by
        rw [← hn]
        exact timeLeft_turns_lt ((nextWake?_eq h.sweepers_eq).trans h.awaits.wakes?_eq) hlt
      obtain ⟨s', events, hrun, hrest⟩ := ih _ hless hnext (Nat.le_of_lt hlt)
        ((s.turns sweeper.ticker.next).2.reverse ++ latest) rfl
      refine ⟨s', (s.turns sweeper.ticker.next).2 ++ events, ?_, hturned.trans hrest⟩
      rw [runUntil_of_lt h.sweepers_eq h.awaits.wakes?_eq hlt, hrun, List.reverse_append,
        List.append_assoc]
    · have hstop : s.runUntil time latest = (s, latest) :=
        runUntil_of_not_lt h.sweepers_eq (fun _ => h.awaits.wakes_eq ▸ hlt) latest
      exact ⟨s, [], hstop, h.idle hle (h.awaits.lt_next hend hlt)⟩

/-- While time passes, the sweeper sweeps whenever it is due. -/
theorem Sweeps.pass (h : s.Sweeps wall start period sweeper) (d : Duration)
    (hend : ¬ Sweeper.IsDue start period (s.pass d).1.clock) :
    Swept s (s.pass d).1 wall start period [] (s.pass d).2 := by
  obtain ⟨s', events, hrun, hswept⟩ := h.runUntil (Nat.le_add_right ..) hend []
  rw [pass_eq hrun]
  exact hswept

theorem step_of_isOpen (h : s.isOpen = true) (step : Step) : s.step step = s.stepOpen step := by
  unfold Simulation.step
  rw [h]

theorem step_claim (h : s.isOpen = true) (c : Claim) :
    s.step (.claim c) =
      let reply := (NonceStore.claim s.store c).2
      let passed := (s.withStore (NonceStore.claim s.store c).1).pass reply.delay
      (passed.1, .claimed reply.answer, passed.2 ++ reply.events) := by
  rw [step_of_isOpen h]
  rfl

theorem step_advance (s : Simulation) (d : Duration) :
    s.step (.advance d) =
      ((s.pass d).1, .passed ((s.pass d).1.sweepers.getLast?.map (·.finished)), (s.pass d).2) := by
  unfold step
  cases s.isOpen <;> rfl

/-- All that is reported while the store is swept is reported by the sweeper. -/
theorem Swept.filter_reports {claims : List (Duration × Claim)} {reports : List Event}
    (h : Swept s s' wall start period claims reports) :
    reports.filter Event.isOfSweeper = reports := by
  obtain ⟨course, hcourse⟩ := h.course
  rw [← hcourse.reports_eq]
  exact Happening.filter_replay ..

/-- A claim takes no time. -/
theorem Sweeps.claimed (h : s.Sweeps wall start period sweeper) (c : Claim) :
    Swept s (s.withStore (NonceStore.claim s.store c).1) wall start period [(s.clock, c)] [] :=
  ⟨⟨sweeper, h.wall_eq, h.hands_eq, h.sweepers_eq, h.store_eq, h.awaits⟩, rfl, _,
    Timeline.claim wall _ s.clock s.store c⟩

/-- One step makes its claim and the sweeps that are due meanwhile. -/
theorem Sweeps.step (h : s.Sweeps wall start period sweeper) {step : Step} (hplain : step.IsPlain)
    (hend : ¬ Sweeper.IsDue start period (s.step step).1.clock) :
    Swept s (s.step step).1 wall start period (s.timedClaims [step])
      ((s.step step).2.2.filter Event.isOfSweeper) := by
  cases step with
  | claim c =>
    have hclaimed := h.claimed c
    obtain ⟨sweeper', hsweeps⟩ := hclaimed.sweeps
    rw [step_claim (isOpen_of_hands h.hands_eq)] at hend ⊢
    have hpassed := hsweeps.pass _ hend
    rw [List.filter_append, Store.filter_claim_events, List.append_nil, hpassed.filter_reports]
    exact hclaimed.trans hpassed
  | advance d =>
    rw [step_advance] at hend ⊢
    have hpassed := h.pass d hend
    rw [hpassed.filter_reports]
    exact hpassed
  | _ => exact hplain.elim

/-- A run makes its claims and the sweeps that are due meanwhile. -/
theorem Sweeps.after (h : s.Sweeps wall start period sweeper) {steps : List Step}
    (hplain : ∀ step ∈ steps, step.IsPlain)
    (hmiss : s.Misses (Sweeper.IsDue start period) steps) :
    Swept s (s.after steps) wall start period (s.timedClaims steps)
      ((s.reports steps).filter Event.isOfSweeper) := by
  induction steps generalizing s sweeper with
  | nil => exact ⟨⟨sweeper, h⟩, rfl, [], .nil ..⟩
  | cons step steps ih =>
    have hstep := h.step (hplain step List.mem_cons_self) hmiss.2.head
    obtain ⟨sweeper', hnext⟩ := hstep.sweeps
    have hrest := ih hnext (fun step hmem => hplain step (List.mem_cons_of_mem _ hmem)) hmiss.2
    have hclaims : s.timedClaims (step :: steps) =
        s.timedClaims [step] ++ (s.step step).1.timedClaims steps := by
      cases step <;> rfl
    rw [hclaims, reports, List.filter_append]
    exact hstep.trans hrest

/-! ## Once the store is let go -/

/-- A run whose store is gone, and whose sweeper has ended or is still to find out. -/
structure Abandoned (s : Simulation) (start period : Duration) (sweeper : Sweeper) : Prop where
  gone : s.isOpen = false
  sweepers_eq : s.sweepers = [sweeper]
  awaits : sweeper.finished = false → sweeper.Awaits start period s.clock

/-- A sweep is due at some time after the first and not after the second. -/
def DueWithin (start period a b : Duration) : Prop :=
  ∃ time, Sweeper.IsDue start period time ∧ a < time ∧ time ≤ b

theorem dueWithin_iff {a b c : Duration} (hab : a ≤ b) (hbc : b ≤ c) :
    DueWithin start period a c ↔ DueWithin start period a b ∨ DueWithin start period b c := by
  unfold DueWithin
  rw [← exists_or]
  refine exists_congr fun time => ?_
  rw [← and_or_left]
  refine and_congr_right fun _ => ?_
  rw [Duration.le_iff] at hab hbc
  simp only [Duration.lt_iff, Duration.le_iff]
  omega

theorem not_dueWithin_self (start period a : Duration) : ¬ DueWithin start period a a := by
  rintro ⟨time, -, hlt, hle⟩
  exact absurd hlt (Nat.not_lt.mpr hle)

/-- A run from a time at which the store is gone to a later one: the store is left alone, and the
sweeper ends and says so when it is due. -/
structure LeftAlone (s s' : Simulation) (reports : List Event) (start period : Duration)
    (sweeper sweeper' : Sweeper) : Prop where
  abandoned : s'.Abandoned start period sweeper'
  store_eq : s'.store = s.store
  le : s.clock ≤ s'.clock
  ended_iff : sweeper'.finished = true ↔
    sweeper.finished = true ∨ DueWithin start period s.clock s'.clock
  reports_eq : reports = if sweeper'.finished && !sweeper.finished then [.storeDropped] else []

variable {sweeper' sweeper'' : Sweeper}

theorem LeftAlone.refl (h : s.Abandoned start period sweeper) :
    LeftAlone s s [] start period sweeper sweeper where
  abandoned := h
  store_eq := rfl
  le := Nat.le_refl _
  ended_iff := (or_iff_left (not_dueWithin_self start period s.clock)).symm
  reports_eq := by cases sweeper.finished <;> rfl

theorem LeftAlone.trans {first second : List Event}
    (h : LeftAlone s s' first start period sweeper sweeper')
    (h' : LeftAlone s' s'' second start period sweeper' sweeper'') :
    LeftAlone s s'' (first ++ second) start period sweeper sweeper'' where
  abandoned := h'.abandoned
  store_eq := h'.store_eq.trans h.store_eq
  le := Nat.le_trans h.le h'.le
  ended_iff := by rw [h'.ended_iff, h.ended_iff, dueWithin_iff h.le h'.le, or_assoc]
  reports_eq := by
    have hfirst := h.ended_iff.mpr ∘ Or.inl
    have hsecond := h'.ended_iff.mpr ∘ Or.inl
    rw [h.reports_eq, h'.reports_eq]
    cases hf : sweeper.finished <;> cases hf' : sweeper'.finished <;>
      cases hf'' : sweeper''.finished <;> simp_all

/-- Until its tick comes, the sweeper does nothing. -/
theorem Abandoned.idle (h : s.Abandoned start period sweeper) (hle : s.clock ≤ time)
    (hlt : sweeper.finished = false → time < sweeper.ticker.next) :
    LeftAlone s { s with clock := time } [] start period sweeper sweeper where
  abandoned := ⟨h.gone, h.sweepers_eq, fun hf => (h.awaits hf).mono hle (hlt hf)⟩
  store_eq := rfl
  le := hle
  ended_iff := by
    refine iff_self_or.mpr fun ⟨due, hdue, hafter, hbefore⟩ => ?_
    refine (Bool.not_eq_false _).mp fun hf => ?_
    exact (h.awaits hf).not_due_of_lt (hlt hf) hdue hafter hbefore
  reports_eq := by cases sweeper.finished <;> rfl

/-- When its tick comes, the sweeper ends. -/
theorem Abandoned.turns (h : s.Abandoned start period sweeper) (hf : sweeper.finished = false) :
    ∃ sweeper', sweeper'.finished = true ∧
      LeftAlone s (s.turns sweeper.ticker.next).1 (s.turns sweeper.ticker.next).2 start period
        sweeper sweeper' := by
  have hawaits := h.awaits hf
  have hturn := sweeper.turn_of_gone h.gone sweeper.ticker.next (s.wall sweeper.ticker.next)
  rw [turns_eq h.sweepers_eq hawaits.wakes?_eq hturn]
  refine ⟨_, rfl, ⟨h.gone, rfl, nofun⟩, rfl, Nat.le_of_lt hawaits.clock_lt, ?_, ?_⟩
  · exact iff_of_true rfl (Or.inr ⟨_, hawaits.due, hawaits.clock_lt, Nat.le_refl _⟩)
  · rw [hf]
    rfl

theorem Abandoned.runUntil_eq (h : s.Abandoned start period sweeper)
    (hlate : sweeper.finished = false → ¬ sweeper.ticker.next < time) (latest : List Event) :
    s.runUntil time latest = (s, latest) :=
  runUntil_of_not_lt h.sweepers_eq (fun hf => (h.awaits hf).wakes_eq ▸ hlate hf) latest

/-- While time passes, the store is left alone, and the sweeper ends when it is due. -/
theorem Abandoned.pass (h : s.Abandoned start period sweeper) (d : Duration)
    (hend : ¬ Sweeper.IsDue start period (s.pass d).1.clock) :
    ∃ sweeper', LeftAlone s (s.pass d).1 (s.pass d).2 start period sweeper sweeper' := by
  rw [clock_pass] at hend
  -- A sweeper at work whose tick comes in time takes this one turn, and no other follows it.
  by_cases htick : sweeper.finished = false ∧ sweeper.ticker.next < s.clock + Timer.wait d
  · obtain ⟨hf, hlt⟩ := htick
    obtain ⟨sweeper', hended, hturned⟩ := h.turns hf
    have hrun : s.runUntil (s.clock + Timer.wait d) [] =
        ((s.turns sweeper.ticker.next).1, (s.turns sweeper.ticker.next).2.reverse ++ []) := by
      rw [runUntil_of_lt h.sweepers_eq (h.awaits hf).wakes?_eq hlt]
      exact hturned.abandoned.runUntil_eq (fun hf' => Bool.noConfusion (hf'.symm.trans hended)) _
    have hidle : LeftAlone (s.turns sweeper.ticker.next).1 (s.pass d).1 [] start period sweeper'
        sweeper' := by
      rw [pass_eq hrun]
      exact hturned.abandoned.idle (Nat.le_of_lt hlt) fun hf' =>
        Bool.noConfusion (hf'.symm.trans hended)
    have hevents : (s.pass d).2 = (s.turns sweeper.ticker.next).2 ++ [] := by
      rw [pass_eq hrun, List.append_nil]
    rw [hevents]
    exact ⟨sweeper', hturned.trans hidle⟩
  · have hlate : sweeper.finished = false →
        ¬ sweeper.ticker.next < s.clock + Timer.wait d := fun hf hlt => htick ⟨hf, hlt⟩
    have hrun : s.runUntil (s.clock + Timer.wait d) [] = (s, [].reverse ++ []) :=
      h.runUntil_eq hlate []
    rw [pass_eq hrun]
    exact ⟨sweeper, h.idle (Nat.le_add_right ..) fun hf => (h.awaits hf).lt_next hend (hlate hf)⟩

theorem Abandoned.after (h : s.Abandoned start period sweeper) {steps : List Step}
    (hplain : ∀ step ∈ steps, step.IsPlain)
    (hmiss : s.Misses (Sweeper.IsDue start period) steps) :
    ∃ sweeper', LeftAlone s (s.after steps) (s.reports steps) start period sweeper sweeper' := by
  induction steps generalizing s sweeper with
  | nil => exact ⟨sweeper, .refl h⟩
  | cons step steps ih =>
    have hstep : ∃ next,
        LeftAlone s (s.step step).1 (s.step step).2.2 start period sweeper next := by
      cases step with
      | claim c =>
        have hrefused : s.step (.claim c) = (s, .noStore, []) := by
          unfold Simulation.step
          rw [h.gone]
        rw [hrefused]
        exact ⟨sweeper, .refl h⟩
      | advance d =>
        have hend := hmiss.2.head
        rw [step_advance] at hend ⊢
        exact h.pass d hend
      | _ => exact (hplain _ List.mem_cons_self).elim
    obtain ⟨next, hnext⟩ := hstep
    obtain ⟨last, hlast⟩ := ih hnext.abandoned
      (fun step hmem => hplain step (List.mem_cons_of_mem _ hmem)) hmiss.2
    exact ⟨last, hnext.trans hlast⟩

/-! ## The schedule -/

/-- When the run and its verifiers let go of the store, nobody holds it. -/
theorem Sweeps.letGo (h : s.Sweeps wall start period sweeper) :
    s.letGo.Abandoned start period sweeper where
  gone := by
    refine decide_eq_false ?_
    show ¬ 0 < s.shared.holders - hands s.verifiers
    rw [h.hands_eq, Nat.sub_self]
    exact Nat.lt_irrefl 0
  sweepers_eq := h.sweepers_eq
  awaits _ := h.awaits

end Simulation

namespace Simulation

/-- Steps to two and a half seconds after the start. -/
def sampleSteps : List Step :=
  [.claim ⟨"b", ⟨1757962692, 0⟩, ⟨1757962690, 0⟩⟩, .advance (.ofMillis 2500)]

end Simulation

end WebhookGuard

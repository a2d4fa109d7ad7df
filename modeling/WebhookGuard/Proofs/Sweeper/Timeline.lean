import WebhookGuard.Proofs.Sweeper.Turns

/-
  Timelines. What happens to a store is a course: claims at the times at which they are made, and
  sweeps at exactly the times at which they are due, in the order of time (`Timeline`). What comes
  of a course is what comes of its parts in turn (`Happening.replay_append`), so courses of
  successive stretches of time are put behind each other (`Timeline.append`).
-/
namespace WebhookGuard

/-! ## Courses -/

/-- What happens to a store. -/
inductive Happening where
  | claimed (time : Duration) (claim : Claim)
  | swept (time : Duration)
deriving DecidableEq, Repr

namespace Happening

def time : Happening → Duration
  | claimed time _ | swept time => time

def claim? : Happening → Option (Duration × Claim)
  | claimed time claim => some (time, claim)
  | swept _ => none

def sweep? : Happening → Option Duration
  | claimed .. => none
  | swept time => some time

/-- What comes of it: the store, and what is reported of a sweep. -/
def perform (wall : Duration → Instant) (store : Store) : Happening → Store × List Event
  | claimed _ claim => ((NonceStore.claim store claim).1, [])
  | swept time =>
    let (store, count) := NonceStore.purge store (wall time)
    (store, Sweeper.report count)

/-- What comes of all that happens, in order. -/
def replay (wall : Duration → Instant) (store : Store) : List Happening → Store × List Event
  | [] => (store, [])
  | happening :: happenings =>
    let (store, events) := happening.perform wall store
    let (store, later) := replay wall store happenings
    (store, events ++ later)

theorem replay_append (wall : Duration → Instant) (store : Store) (first second : List Happening) :
    replay wall store (first ++ second) =
      ((replay wall (replay wall store first).1 second).1,
        (replay wall store first).2 ++ (replay wall (replay wall store first).1 second).2) := by
  induction first generalizing store with
  | nil => rfl
  | cons happening first ih => simp only [List.cons_append, replay, ih, List.append_assoc]

end Happening

/-! ## Timelines -/

/-- Between two times, some claims are made on a store and it is swept whenever a sweep is due and
at no other time. -/
structure Timeline (wall : Duration → Instant) (due : Duration → Prop) (start finish : Duration)
    (claims : List (Duration × Claim)) (before after : Store) (reports : List Event)
    (course : List Happening) : Prop where
  le : start ≤ finish
  ordered : course.Pairwise fun a b => a.time ≤ b.time
  within : ∀ happening ∈ course, start ≤ happening.time ∧ happening.time ≤ finish
  claims_eq : course.filterMap Happening.claim? = claims
  /-- No sweep is made twice. -/
  sweeps_ordered : (course.filterMap Happening.sweep?).Pairwise (· < ·)
  swept_iff : ∀ time, .swept time ∈ course ↔ due time ∧ start < time ∧ time ≤ finish
  store_eq : (Happening.replay wall before course).1 = after
  reports_eq : (Happening.replay wall before course).2 = reports

namespace Timeline

variable {wall : Duration → Instant} {due : Duration → Prop} {a b c : Duration}
variable {claims claims' : List (Duration × Claim)} {s s' s'' : Store} {events events' : List Event}
variable {course course' : List Happening}

theorem mem_sweeps_iff {time : Duration} :
    time ∈ course.filterMap Happening.sweep? ↔ .swept time ∈ course := by
  rw [List.mem_filterMap]
  constructor
  · rintro ⟨happening, hmem, hsweep⟩
    cases happening with
    | claimed time claim => cases hsweep
    | swept time =>
      obtain rfl := Option.some.inj hsweep
      exact hmem
  · exact fun hmem => ⟨_, hmem, rfl⟩

/-- Courses that meet at some time make one course. -/
theorem append (h : Timeline wall due a b claims s s' events course)
    (h' : Timeline wall due b c claims' s' s'' events' course') :
    Timeline wall due a c (claims ++ claims') s s'' (events ++ events') (course ++ course') := by
  have hab := h.le
  have hbc := h'.le
  refine ⟨Nat.le_trans hab hbc, ?_, ?_, ?_, ?_, ?_, ?_, ?_⟩
  · refine List.pairwise_append.mpr ⟨h.ordered, h'.ordered, fun x hx y hy => ?_⟩
    exact Nat.le_trans (h.within x hx).2 (h'.within y hy).1
  · intro x hx
    rcases List.mem_append.mp hx with hx | hx
    · exact ⟨(h.within x hx).1, Nat.le_trans (h.within x hx).2 hbc⟩
    · exact ⟨Nat.le_trans hab (h'.within x hx).1, (h'.within x hx).2⟩
  · rw [List.filterMap_append, h.claims_eq, h'.claims_eq]
  · rw [List.filterMap_append]
    refine List.pairwise_append.mpr ⟨h.sweeps_ordered, h'.sweeps_ordered, fun x hx y hy => ?_⟩
    have hxb := ((h.swept_iff x).mp (mem_sweeps_iff.mp hx)).2.2
    have hby := ((h'.swept_iff y).mp (mem_sweeps_iff.mp hy)).2.1
    exact Nat.lt_of_le_of_lt hxb hby
  · intro time
    rw [List.mem_append, h.swept_iff, h'.swept_iff, ← and_or_left]
    refine and_congr_right fun _ => ?_
    rw [Duration.le_iff] at hab hbc
    simp only [Duration.lt_iff, Duration.le_iff]
    omega
  · rw [Happening.replay_append, h.store_eq, h'.store_eq]
  · rw [Happening.replay_append, h.store_eq, h.reports_eq, h'.reports_eq]

/-- While no sweep is due, nothing happens. -/
theorem idle (wall : Duration → Instant) (s : Store) (hab : a ≤ b)
    (hnone : ∀ time, due time → a < time → ¬ time ≤ b) :
    Timeline wall due a b [] s s [] [] where
  le := hab
  ordered := .nil
  within := nofun
  claims_eq := rfl
  sweeps_ordered := .nil
  swept_iff time := iff_of_false nofun fun h => hnone time h.1 h.2.1 h.2.2
  store_eq := rfl
  reports_eq := rfl

theorem nil (wall : Duration → Instant) (due : Duration → Prop) (time : Duration) (s : Store) :
    Timeline wall due time time [] s s [] [] :=
  idle wall s (Nat.le_refl _) fun _ _ hlt hle => Nat.not_le.mpr hlt hle

/-- A claim takes no time. -/
theorem claim (wall : Duration → Instant) (due : Duration → Prop) (time : Duration) (s : Store)
    (c : Claim) : Timeline wall due time time [(time, c)] s (NonceStore.claim s c).1 []
      [.claimed time c] where
  le := Nat.le_refl _
  ordered := List.pairwise_singleton ..
  within happening h := by
    obtain rfl := List.mem_singleton.mp h
    exact ⟨Nat.le_refl _, Nat.le_refl _⟩
  claims_eq := rfl
  sweeps_ordered := .nil
  swept_iff later := by
    refine iff_of_false (by simp) ?_
    simp only [Duration.lt_iff, Duration.le_iff]
    omega
  store_eq := rfl
  reports_eq := rfl

/-- A sweep at the first time at which one is due. -/
theorem sweep (wall : Duration → Instant) (s : Store) (hlt : a < b) (hdue : due b)
    (hfirst : ∀ time, due time → a < time → b ≤ time) :
    Timeline wall due a b [] s (NonceStore.purge s (wall b)).1
      (Sweeper.report (NonceStore.purge s (wall b)).2) [.swept b] where
  le := Nat.le_of_lt hlt
  ordered := List.pairwise_singleton ..
  within happening h := by
    obtain rfl := List.mem_singleton.mp h
    exact ⟨Nat.le_of_lt hlt, Nat.le_refl _⟩
  claims_eq := rfl
  sweeps_ordered := List.pairwise_singleton ..
  swept_iff time := by
    rw [List.mem_singleton]
    constructor
    · rintro ⟨⟩
      exact ⟨hdue, hlt, Nat.le_refl _⟩
    · rintro ⟨htime, hafter, hle⟩
      have heq : time.nanos = b.nanos := Nat.le_antisymm hle (hfirst time htime hafter)
      exact congrArg (Happening.swept ∘ Duration.mk) heq
  store_eq := rfl
  reports_eq := List.append_nil _

end Timeline

/-! ## What sweepers report -/

/-- An event that a sweeper reports. -/
def Event.isOfSweeper : Event → Bool
  | purged _ | sweepFailed _ | storeDropped => true
  | _ => false

theorem Sweeper.isOfSweeper_of_report {count : Except StoreError Nat} {e : Event}
    (h : e ∈ Sweeper.report count) : e.isOfSweeper = true := by
  unfold Sweeper.report at h
  split at h
  · cases h
  · obtain rfl := List.mem_singleton.mp h
    rfl
  · obtain rfl := List.mem_singleton.mp h
    rfl

theorem Happening.filter_replay (wall : Duration → Instant) (store : Store)
    (course : List Happening) :
    (replay wall store course).2.filter Event.isOfSweeper = (replay wall store course).2 := by
  induction course generalizing store with
  | nil => rfl
  | cons happening course ih =>
    simp only [replay, List.filter_append, ih]
    congr 1
    rw [List.filter_eq_self]
    intro e he
    cases happening with
    | claimed time claim => cases he
    | swept time => exact Sweeper.isOfSweeper_of_report he

end WebhookGuard

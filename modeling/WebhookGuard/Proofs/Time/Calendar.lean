import Mathlib.Data.Int.Init
import WebhookGuard.Time.Calendar

/-
  The count of days. A day after a day that exists exists, and is counted as one more
  (`Date.valid_next`, `Date.dayNumber_next`), through ends of months and years, leap years included.
  Going from one day to the next, and back, leads from any day to any other (`Date.eq_of_next`), so
  there is no other count of days from 1970-01-01 (`Date.counts_iff`).
-/
namespace WebhookGuard.Time

/-- A leap year has one day more. -/
def leapDays (year : Int) : Nat := if isLeapYear year then 1 else 0

theorem isLeapYear_iff (year : Int) : isLeapYear year = true ↔
    year % 4 = 0 ∧ (year % 100 ≠ 0 ∨ year % 400 = 0) := by
  simp [isLeapYear]

theorem daysInMonth_february (year : Int) : daysInMonth year 2 = 28 + leapDays year := by
  show (if isLeapYear year then 29 else 28) = 28 + if isLeapYear year then 1 else 0
  split <;> rfl

theorem daysInMonth_le (year : Int) (month : Nat) : daysInMonth year month ≤ 31 := by
  unfold daysInMonth
  split <;> (try split) <;> omega

/-- Each of the twelve months has a day. -/
theorem daysInMonth_pos {year : Int} {month : Nat} (h : 1 ≤ month) (h' : month ≤ 12) :
    1 ≤ daysInMonth year month := by
  unfold daysInMonth
  split <;> (try split) <;> (try simp only [imp_false] at *) <;> omega

namespace Date

theorem daysBeforeMonth_succ (year : Int) {month : Nat} (h : 1 ≤ month) :
    daysBeforeMonth year (month + 1) = daysBeforeMonth year month + daysInMonth year month := by
  obtain ⟨m, rfl⟩ : ∃ m, month = m + 1 := ⟨month - 1, by omega⟩
  unfold daysBeforeMonth
  rw [Nat.add_sub_cancel, Nat.add_sub_cancel, List.range_succ, List.map_append, List.foldl_append]
  rfl

theorem daysBeforeMonth_le (year : Int) (month : Nat) :
    daysBeforeMonth year (month + 1) ≤ 31 * month := by
  induction month with
  | zero => exact Nat.le_refl _
  | succ month ih =>
    have hlast := daysInMonth_le year (month + 1)
    rw [daysBeforeMonth_succ year (Nat.le_add_left 1 month)]
    omega

/-- December ends the year. -/
theorem daysBeforeMonth_december (year : Int) :
    daysBeforeMonth year 12 + 31 = 365 + leapDays year := by
  have hfebruary := daysInMonth_february year
  have hsum : daysBeforeMonth year 12 = 306 + daysInMonth year 2 := by
    simp only [daysBeforeMonth, List.range, List.range.loop, List.map_cons, List.map_nil,
      List.foldl_cons, List.foldl_nil]
    show 0 + 31 + daysInMonth year 2 + 31 + 30 + 31 + 30 + 31 + 31 + 30 + 31 + 30 = _
    omega
  omega

theorem daysBeforeYear_succ (year : Int) :
    daysBeforeYear (year + 1) = daysBeforeYear year + 365 + leapDays year := by
  unfold daysBeforeYear leapDays
  simp only [isLeapYear_iff]
  split <;> omega

/-- The day after exists. -/
theorem valid_next {d : Date} (h : d.Valid) : d.next.Valid := by
  obtain ⟨hm, hm', hd, hd'⟩ := h
  unfold next
  split
  · next hday => exact ⟨hm, hm', Nat.le_add_left .., hday⟩
  · split
    · next hmonth =>
      exact ⟨Nat.le_add_left .., hmonth, Nat.le_refl _, daysInMonth_pos (Nat.le_add_left ..) hmonth⟩
    · exact ⟨Nat.le_refl 1, Nat.le_add_left 1 11, Nat.le_refl 1, Nat.le_add_left 1 30⟩

/-- The day after is counted as one more. -/
theorem dayNumber_next {d : Date} (h : d.Valid) : d.next.dayNumber = d.dayNumber + 1 := by
  obtain ⟨hm, hm', hd, hd'⟩ := h
  unfold next
  split
  · simp only [dayNumber]
    omega
  · next hlast =>
    split
    · have hmonth := daysBeforeMonth_succ d.year hm
      simp only [dayNumber]
      omega
    · have hdecember : d.month = 12 := by omega
      have hlength := daysBeforeMonth_december d.year
      have hyear := daysBeforeYear_succ d.year
      have hdays : daysInMonth d.year 12 = 31 := rfl
      have hjanuary : daysBeforeMonth (d.year + 1) 1 = 0 := rfl
      rw [hdecember] at hd' hlast
      simp only [dayNumber, hdecember, hyear, hjanuary]
      omega

/-- Years of four digits lie well within the calendar. -/
theorem dayNumber_bounds {d : Date} (h : d.Valid) (hfirst : 0 ≤ d.year) (hlast : d.year ≤ 9999) :
    -720000 ≤ d.dayNumber ∧ d.dayNumber ≤ 2940000 := by
  obtain ⟨hm, hm', hd, hd'⟩ := h
  obtain ⟨m, hmonth⟩ : ∃ m, d.month = m + 1 := ⟨d.month - 1, by omega⟩
  have hbefore := daysBeforeMonth_le d.year m
  have hday := daysInMonth_le d.year d.month
  rw [← hmonth] at hbefore
  unfold dayNumber daysBeforeYear
  omega

/-! ## From day to day -/

section Along

variable {α : Type} {f : Date → α} (h : ∀ d : Date, d.Valid → f d.next = f d)
include h

/-- What the next day leaves as it is stays the same through a month. -/
theorem eq_first_of_month {year : Int} {month day : Nat} (hvalid : Valid ⟨year, month, day + 1⟩) :
    f ⟨year, month, day + 1⟩ = f ⟨year, month, 1⟩ := by
  induction day with
  | zero => rfl
  | succ day ih =>
    obtain ⟨hm, hm', -, hd⟩ := hvalid
    have hbefore : Valid ⟨year, month, day + 1⟩ :=
      ⟨hm, hm', Nat.le_add_left 1 day, Nat.le_of_succ_le hd⟩
    have hnext : next ⟨year, month, day + 1⟩ = ⟨year, month, day + 1 + 1⟩ := if_pos hd
    rw [← hnext, h _ hbefore, ih hbefore]

/-- The day after the last of a month. -/
theorem eq_last_of_month (year : Int) {month : Nat} (hm : 1 ≤ month) (hm' : month ≤ 12) :
    f (next ⟨year, month, daysInMonth year month⟩) = f ⟨year, month, 1⟩ := by
  have hpos : 1 ≤ daysInMonth year month := daysInMonth_pos hm hm'
  have hvalid : Valid ⟨year, month, daysInMonth year month⟩ := ⟨hm, hm', hpos, Nat.le_refl _⟩
  rw [h _ hvalid]
  obtain ⟨day, hday⟩ : ∃ day, daysInMonth year month = day + 1 :=
    ⟨_, (Nat.sub_add_cancel hpos).symm⟩
  rw [hday] at hvalid ⊢
  exact eq_first_of_month h hvalid

/-- And through a year. -/
theorem eq_first_of_year (year : Int) {month : Nat} (hmonth : month < 12) :
    f ⟨year, month + 1, 1⟩ = f ⟨year, 1, 1⟩ := by
  induction month with
  | zero => rfl
  | succ month ih =>
    have hnext : next ⟨year, month + 1, daysInMonth year (month + 1)⟩ =
        ⟨year, month + 1 + 1, 1⟩ := by
      unfold next
      rw [if_neg (Nat.lt_irrefl _), if_pos hmonth]
    rw [← hnext, eq_last_of_month h year (Nat.le_add_left 1 month) (Nat.le_of_lt hmonth),
      ih (Nat.lt_of_succ_lt hmonth)]

theorem eq_next_year (year : Int) : f ⟨year + 1, 1, 1⟩ = f ⟨year, 1, 1⟩ := by
  have hnext : next ⟨year, 12, daysInMonth year 12⟩ = ⟨year + 1, 1, 1⟩ := rfl
  rw [← hnext, eq_last_of_month h year (by decide) (by decide),
    eq_first_of_year h year (by decide : 11 < 12)]

/-- What the next day leaves as it is is the same for all days. -/
theorem eq_of_next {d e : Date} (hd : d.Valid) (he : e.Valid) : f d = f e := by
  have hyear : ∀ year : Int, f ⟨year, 1, 1⟩ = f ⟨0, 1, 1⟩ := by
    intro year
    induction year using Int.induction_on with
    | zero => rfl
    | succ year ih => rw [eq_next_year h, ih]
    | pred year ih =>
      have hback := eq_next_year h (-(year : Int) - 1)
      rw [Int.sub_add_cancel] at hback
      rw [← hback, ih]
  have hday : ∀ d : Date, d.Valid → f d = f ⟨0, 1, 1⟩ := by
    rintro ⟨year, month, day⟩ hvalid
    obtain ⟨m, rfl⟩ : ∃ m, month = m + 1 := ⟨_, (Nat.sub_add_cancel hvalid.1).symm⟩
    obtain ⟨k, rfl⟩ : ∃ k, day = k + 1 := ⟨_, (Nat.sub_add_cancel hvalid.2.2.1).symm⟩
    rw [eq_first_of_month h hvalid, eq_first_of_year h year hvalid.2.1, hyear]
  rw [hday d hd, hday e he]

end Along

/-- A count of days: zero on 1970-01-01 and one more on each next day. -/
structure Counts (count : Date → Int) : Prop where
  epoch : count ⟨1970, 1, 1⟩ = 0
  next : ∀ d : Date, d.Valid → count d.next = count d + 1

theorem Counts.eq_dayNumber {count : Date → Int} (h : Counts count) {d : Date} (hd : d.Valid) :
    count d = d.dayNumber := by
  have hdrift : ∀ d : Date, d.Valid → count d.next - d.next.dayNumber = count d - d.dayNumber := by
    intro d hd
    rw [h.next d hd, dayNumber_next hd]
    omega
  have hfirst : Valid ⟨1970, 1, 1⟩ := by decide
  have hsame : count d - d.dayNumber = count ⟨1970, 1, 1⟩ - dayNumber ⟨1970, 1, 1⟩ :=
    eq_of_next (f := fun d => count d - d.dayNumber) hdrift hd hfirst
  rw [h.epoch, dayNumber_epoch] at hsame
  omega

/-- The number of a day is the one count of days there is. -/
theorem counts_iff {count : Date → Int} :
    Counts count ↔ ∀ d : Date, d.Valid → count d = d.dayNumber := by
  constructor
  · intro h d hd
    exact h.eq_dayNumber hd
  · intro h
    refine ⟨?_, fun d hd => ?_⟩
    · rw [h _ (by decide), dayNumber_epoch]
    · rw [h _ (valid_next hd), h d hd, dayNumber_next hd]

end Date

end WebhookGuard.Time

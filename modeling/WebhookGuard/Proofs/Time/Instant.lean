import WebhookGuard.Time.Instant

/-
  Instants compared, subtracted and added to. The order is linear. Outside leap seconds an instant
  is its count of nanoseconds: differences and sums of instants are those of the counts, and the
  milliseconds of an instant are its count rounded down. What holds of leap seconds as well is kept
  apart and said in whole seconds.
-/
namespace WebhookGuard.Instant

/-! ## The order -/

theorem lt_iff (a b : Instant) : a < b ↔ a.secs < b.secs ∨ (a.secs = b.secs ∧ a.nanos < b.nanos) :=
  Iff.rfl

theorem le_iff (a b : Instant) : a ≤ b ↔ a.secs < b.secs ∨ (a.secs = b.secs ∧ a.nanos ≤ b.nanos) :=
  Iff.rfl

theorem ext_iff (a b : Instant) : a = b ↔ a.secs = b.secs ∧ a.nanos = b.nanos := by
  cases a
  cases b
  simp

instance : Std.IsLinearOrder Instant where
  le_refl a := by rw [le_iff]; omega
  le_trans a b c h h' := by rw [le_iff] at *; omega
  le_antisymm a b h h' := by rw [le_iff] at *; rw [ext_iff]; omega
  le_total a b := by rw [le_iff, le_iff]; omega

instance : Std.LawfulOrderLT Instant where
  lt_iff a b := by rw [lt_iff, le_iff, le_iff]; omega

theorem secs_le_of_le {a b : Instant} (h : a ≤ b) : a.secs ≤ b.secs := by
  rw [le_iff] at h
  omega

theorem lt_of_secs_lt {a b : Instant} (h : a.secs < b.secs) : a < b := Or.inl h

theorem le_max_left (a b : Instant) : a ≤ a.max b := by
  unfold max
  split <;> grind

theorem le_max_right (a b : Instant) : b ≤ a.max b := by
  unfold max
  split <;> grind

theorem max_eq_or (a b : Instant) : a.max b = a ∨ a.max b = b := by
  unfold max
  split <;> simp

/-! ## Counting nanoseconds -/

/-- The nanoseconds since the start of 1970, with no second counted for a leap second. -/
def count (t : Instant) : Int := t.secs * 1000000000 + t.nanos

/-- The ordinary instant at a count of nanoseconds. -/
def ofCount (n : Int) : Instant := ⟨n / 1000000000, (n % 1000000000).toNat⟩

theorem ordinary_iff (t : Instant) : t.Ordinary ↔ t.nanos < 1000000000 := Iff.rfl

theorem secs_ofCount (n : Int) : (ofCount n).secs = n / 1000000000 := rfl

theorem ordinary_ofCount (n : Int) : (ofCount n).Ordinary := by
  rw [ordinary_iff]
  simp only [ofCount]
  omega

theorem count_ofCount (n : Int) : (ofCount n).count = n := by
  simp only [count, ofCount]
  omega

theorem count_lt_iff {a b : Instant} (ha : a.Ordinary) (hb : b.Ordinary) :
    a < b ↔ a.count < b.count := by
  rw [ordinary_iff] at ha hb
  rw [lt_iff]
  unfold count
  omega

theorem count_le_iff {a b : Instant} (ha : a.Ordinary) (hb : b.Ordinary) :
    a ≤ b ↔ a.count ≤ b.count := by
  rw [ordinary_iff] at ha hb
  rw [le_iff]
  unfold count
  omega

theorem count_max {a b : Instant} (ha : a.Ordinary) (hb : b.Ordinary) :
    (a.max b).count = Max.max a.count b.count := by
  have h := count_lt_iff ha hb
  by_cases hab : a < b
  · have hc := h.mp hab
    rw [show a.max b = b from if_pos hab]
    omega
  · have hc := mt h.mpr hab
    rw [show a.max b = a from if_neg hab]
    omega

theorem ordinary_max {a b : Instant} (ha : a.Ordinary) (hb : b.Ordinary) : (a.max b).Ordinary := by
  rcases max_eq_or a b with h | h <;> rw [h] <;> assumption

/-! ## Milliseconds -/

theorem millis_eq_count_div (t : Instant) : t.millis = t.count / 1000000 := by
  unfold millis count
  omega

/-- Rounding down keeps the order where the earlier instant is ordinary. -/
theorem millis_le_millis {a b : Instant} (ha : a.Ordinary) (h : a ≤ b) : a.millis ≤ b.millis := by
  rw [ordinary_iff] at ha
  rw [le_iff] at h
  unfold millis
  omega

/-- Rounding down to milliseconds tells whole seconds apart. -/
theorem millis_lt_millis {a b : Instant} (ha : a.Ordinary) (h : a.secs < b.secs) :
    a.millis < b.millis := by
  rw [ordinary_iff] at ha
  unfold millis
  omega

/-! ## Differences -/

/-- A difference is that of the counts, up to a second for a leap second of either operand. -/
theorem exists_leap (a b : Instant) : ∃ leap : Int,
    a.since b = a.count - b.count + leap * 1000000000 ∧
      (leap = 0 ∨ (leap = 1 ∧ ¬ b.Ordinary) ∨ (leap = -1 ∧ ¬ a.Ordinary)) := by
  refine ⟨if b.secOfDay < a.secOfDay ∧ nanosPerSec ≤ b.nanos then 1
    else if a.secOfDay < b.secOfDay ∧ nanosPerSec ≤ a.nanos then -1 else 0, ?_, ?_⟩
  · simp only [since, count, nanosPerSec]
    omega
  · rw [ordinary_iff, ordinary_iff]
    unfold nanosPerSec
    split
    · omega
    · split <;> omega

/-- The whole seconds of an instant are within its distance from an ordinary one, although the
instant itself may be in a leap second. -/
theorem secs_le_of_since (a : Instant) {b : Instant} (hb : b.Ordinary) :
    a.secs * 1000000000 ≤ b.count + a.since b := by
  obtain ⟨leap, hsince, h⟩ := exists_leap a b
  rw [ordinary_iff, ordinary_iff] at h
  rw [ordinary_iff] at hb
  unfold count at *
  omega

theorem since_eq_sub {a b : Instant} (ha : a.Ordinary) (hb : b.Ordinary) :
    a.since b = a.count - b.count := by
  obtain ⟨leap, hsince, h⟩ := exists_leap a b
  have hleap : leap = 0 := by
    rcases h with h | ⟨-, h⟩ | ⟨-, h⟩
    · exact h
    · exact absurd hb h
    · exact absurd ha h
  rw [hsince, hleap]
  omega

theorem since_self (t : Instant) : t.since t = 0 := by
  simp [since]

/-! ## Sums -/

theorem inRange?_eq_some {t r : Instant} : inRange? t = some r ↔ t.InRange ∧ t = r := by
  unfold inRange?
  split <;> simp [*]

/-- The end of the calendar is the last ordinary instant within it. -/
theorem le_latest {t : Instant} (h : t.Ordinary) (hr : t.InRange) : t ≤ latest := by
  rw [ordinary_iff] at h
  rw [le_iff]
  have := hr.2
  simp only [latest]
  omega

theorem inRange_of_le_of_le {a b t : Instant} (ha : a.InRange) (hb : b.InRange) (hat : a ≤ t)
    (htb : t ≤ b) : t.InRange :=
  ⟨Int.le_trans ha.1 (secs_le_of_le hat), Int.le_trans (secs_le_of_le htb) hb.2⟩

/-- A sum is of the count where the first operand is ordinary. -/
theorem add?_eq {t : Instant} (h : t.Ordinary) (d : Duration) :
    t.add? d = inRange? (ofCount (t.count + d.nanos)) := by
  rw [ordinary_iff] at h
  have hsum : (⟨t.secs + d.secs + ((t.nanos + d.nanos % 1000000000) / 1000000000 : Nat),
      (t.nanos + d.nanos % 1000000000) % 1000000000⟩ : Instant) = ofCount (t.count + d.nanos) := by
    rw [ext_iff]
    simp only [ofCount, count, Duration.secs]
    omega
  have hleap : ¬ (1000000000 ≤ t.nanos) := by omega
  simp only [add?, nanosPerSec, hleap, false_and, if_false]
  rw [← hsum]

/-- No sum is in an earlier second. -/
theorem secs_le_of_add? {t r : Instant} {d : Duration} (h : t.add? d = some r) :
    t.secs ≤ r.secs := by
  simp only [add?] at h
  split at h
  · obtain ⟨-, rfl⟩ := inRange?_eq_some.mp h
    exact Int.le_refl _
  · obtain ⟨-, rfl⟩ := inRange?_eq_some.mp h
    simp only [Duration.secs, nanosPerSec]
    omega

/-- A sum with a second or more is in a later second, outside any leap second. -/
theorem add?_of_secs_pos {t r : Instant} {d : Duration} (hd : 0 < d.secs)
    (h : t.add? d = some r) : t.secs < r.secs ∧ r.Ordinary ∧ r.InRange := by
  have hstay : ¬ (nanosPerSec ≤ t.nanos ∧
      ¬ (0 < d.secs ∨ 2 * nanosPerSec ≤ t.nanos + d.nanos % nanosPerSec)) := by
    simp [hd]
  simp only [add?, if_neg hstay] at h
  obtain ⟨hr, rfl⟩ := inRange?_eq_some.mp h
  refine ⟨?_, ?_, hr⟩
  · simp only [nanosPerSec]
    omega
  · exact Nat.mod_lt _ (by decide)

theorem secs_ofSecs_one : 0 < (Duration.ofSecs 1).secs := by decide

end WebhookGuard.Instant

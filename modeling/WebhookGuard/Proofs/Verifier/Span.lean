import WebhookGuard.Proofs.Timestamp.WellFormed
import WebhookGuard.Proofs.Verifier.Expiry
import WebhookGuard.Proofs.Verifier.Signed

/-
  Arithmetic that cannot fail. The calendar is far shorter than the longest duration, so the
  difference of two well-formed instants is a span that clock readings can be compared with, either
  way and in absolute value, leap seconds included (`isSpan_since`). Sums may leave the calendar, but
  the expiry then falls back on its end. So whatever a timestamp says, once it is read nothing that is
  computed from it and a well-formed clock reading overflows (`arithmetic_of_read?`).
-/
namespace WebhookGuard

open Instant

/-- Nanoseconds, forward or back, that are no more than the longest duration. -/
def IsSpan (n : Int) : Prop :=
  -(longestDuration.nanos : Int) ≤ n ∧ n ≤ longestDuration.nanos

instance (n : Int) : Decidable (IsSpan n) := inferInstanceAs (Decidable (_ ∧ _))

theorem IsSpan.natAbs {n : Int} (h : IsSpan n) : IsSpan n.natAbs := by
  unfold IsSpan at *
  omega

/-- A well-formed instant lasts no longer than two seconds past its second. -/
theorem Instant.WellFormed.nanos_lt {t : Instant} (h : t.WellFormed) :
    t.nanos < 2 * nanosPerSec := by
  rcases h.2 with h | ⟨h, -⟩
  · rw [ordinary_iff] at h
    unfold nanosPerSec
    omega
  · exact h

/-- Two instants of the calendar are no further apart than the calendar is long, give or take a leap
second. -/
theorem isSpan_since {a b : Instant} (ha : a.WellFormed) (hb : b.WellFormed) :
    IsSpan (a.since b) := by
  obtain ⟨leap, hsince, hleap⟩ := exists_leap a b
  obtain ⟨hfirst, hlast⟩ := ha.1
  obtain ⟨hfirst', hlast'⟩ := hb.1
  have hnanos := ha.nanos_lt
  have hnanos' := hb.nanos_lt
  -- The calendar has some 10^13 seconds, the longest duration almost 10^16.
  have hone : -1 ≤ leap ∧ leap ≤ 1 := by omega
  simp only [firstSec, lastSec, nanosPerSec, count] at *
  simp only [IsSpan, longestDuration, Duration.ofMillis]
  omega

namespace Verifier

theorem wellFormed_expiry (v : Verifier) (now sent : Instant) : (v.expiry now sent).WellFormed :=
  ⟨(v.expiry_ordinary now sent).2, Or.inl (v.expiry_ordinary now sent).1⟩

/-- An expiry is later than the clock reading it was reckoned from, unless the calendar has ended. -/
theorem lt_expiry_iff (v : Verifier) (now sent : Instant) :
    now < v.expiry now sent ↔ now < .latest := by
  refine ⟨fun h => ?_, fun h => v.lt_expiry h sent⟩
  have hend := v.expiry_le_latest now sent
  grind

/-- A timestamp that is read names a well-formed instant, which is in no leap second if the timestamp
is a number. Its distance from any well-formed clock reading is a span, and so is the absolute value
of that; its expiry is well-formed, and later than the clock reading unless the calendar has
ended. -/
theorem arithmetic_of_read? {policy : TimestampPolicy} {raw : String} {sent : Instant}
    (h : Timestamp.read? policy raw = some sent) :
    sent.WellFormed ∧ (Timestamp.IsNumber raw.toList → sent.Ordinary) ∧
    ∀ (v : Verifier) (now : Instant), now.WellFormed →
      IsSpan (now.since sent) ∧ IsSpan (now.since sent).natAbs ∧
      (v.expiry now sent).WellFormed ∧ (now < v.expiry now sent ↔ now < .latest) := by
  obtain ⟨hsent, hnumber⟩ := Timestamp.wellFormed_of_read? h
  refine ⟨hsent, hnumber, fun v now hnow => ?_⟩
  have hspan := isSpan_since hnow hsent
  exact ⟨hspan, hspan.natAbs, v.wellFormed_expiry now sent, v.lt_expiry_iff now sent⟩

/-- The last leap second of 2016, in a zone that is half an hour behind, and the first and the last
instant of the calendar. -/
theorem arithmetic_of_leapSecond :
    Timestamp.read? .flexible "2016-12-31T23:29:60.5-00:30" = some ⟨1483228799, 1500000000⟩ ∧
    (⟨1483228799, 1500000000⟩ : Instant).WellFormed ∧
    IsSpan ((⟨firstSec, 0⟩ : Instant).since ⟨1483228799, 1500000000⟩).natAbs ∧
    ⟨firstSec, 0⟩ < Verifier.sample.expiry ⟨firstSec, 0⟩ ⟨1483228799, 1500000000⟩ ∧
    ¬ ⟨lastSec, 1999999999⟩ <
      Verifier.sample.expiry ⟨lastSec, 1999999999⟩ ⟨1483228799, 1500000000⟩ := by
  have hread : Timestamp.read? .flexible "2016-12-31T23:29:60.5-00:30" =
      some ⟨1483228799, 1500000000⟩ := by decide +kernel
  obtain ⟨hwf, -, harith⟩ := arithmetic_of_read? hread
  obtain ⟨-, habs, -, hfirst⟩ := harith .sample ⟨firstSec, 0⟩ (by decide)
  obtain ⟨-, -, -, hlast⟩ := harith .sample ⟨lastSec, 1999999999⟩ (by decide)
  exact ⟨hread, hwf, habs, hfirst.mpr (by decide), mt hlast.mp (by decide)⟩

end Verifier

end WebhookGuard

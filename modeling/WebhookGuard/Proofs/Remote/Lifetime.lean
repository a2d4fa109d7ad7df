import WebhookGuard.Proofs.Remote.Connection
import WebhookGuard.Proofs.Verifier.Flight

/-
  How long a key lasts. A remote store asks for a number of whole milliseconds, so a key may be
  dropped up to a millisecond before the claim for it expires. The second that a claim lasts longer
  than the skew asks for covers that: the key is there at every ordinary instant at which the
  message is fresh.

  In a leap second the clock stands still for the message when the time of day is before that of its
  timestamp, and the second is used up. Then the key may be gone in the first millisecond of the
  leap second (`lt_deadline_of_isFresh`). Leap seconds at the end of a day have no earlier time of
  day, so there it does not happen.
-/
namespace WebhookGuard

namespace Instant

/-- Unless the time of day goes back, a difference to an ordinary instant is that of the counts, also
in leap seconds. -/
theorem since_eq_of_secOfDay_le {a b : Instant} (hb : b.Ordinary)
    (h : b.secOfDay ≤ a.secOfDay) : a.since b = a.count - b.count := by
  rw [ordinary_iff] at hb
  simp only [since, count, nanosPerSec]
  omega

theorem lt_ofCount_of_count_lt {t : Instant} (ht : t.Ordinary) {n : Int} (h : t.count < n) :
    t < ofCount n := by
  rw [count_lt_iff ht (ordinary_ofCount n), count_ofCount]
  exact h

/-- Also a leap second is over when the count has reached the next second. -/
theorem lt_ofCount_of_secs_lt {t : Instant} {n : Int} (h : (t.secs + 1) * 1000000000 ≤ n) :
    t < ofCount n := by
  refine lt_of_secs_lt ?_
  rw [secs_ofCount]
  omega

end Instant

namespace RemoteStore

open Instant

/-- The count of nanoseconds at which the key of a claim is dropped. -/
def deadline (c : Claim) : Int := c.now.count + 1000000 * lifetime c

section Verifier

variable {v : Verifier} {now sent t : Instant} {nonce : String}

/-- The lifetime of a key is what lies between the clock and the expiry, rounded down. -/
theorem lifetime_of_inCalendar (hn : now.Ordinary) (hs : sent.Ordinary)
    (hc : v.InCalendar now sent) :
    lifetime ⟨nonce, v.expiry now sent, now⟩ =
      (max (v.options.maxMessageAge.nanos : Int)
        (sent.count + v.options.allowedClockSkew.nanos - now.count) + 1000000000) / 1000000 := by
  have hcount := Verifier.count_expiry hn hs hc
  have hsince : (v.expiry now sent).since now =
      max (v.options.maxMessageAge.nanos : Int)
        (sent.count + v.options.allowedClockSkew.nanos - now.count) + 1000000000 := by
    rw [since_eq_sub (v.expiry_ordinary now sent).1 hn]
    omega
  unfold lifetime
  rw [hsince, Int.tdiv_eq_ediv_of_nonneg (by omega)]

/-- A key lasts for the age and a second. -/
theorem le_lifetime (hn : now.Ordinary) (hs : sent.Ordinary) (hc : v.InCalendar now sent) :
    (v.options.maxMessageAge.nanos / 1000000 : Nat) + 1000 ≤
      lifetime ⟨nonce, v.expiry now sent, now⟩ := by
  rw [lifetime_of_inCalendar hn hs hc]
  omega

/-- A key lasts beyond the deadline set by the skew, for a second but for less than a
millisecond. -/
theorem lt_deadline (hn : now.Ordinary) (hs : sent.Ordinary) (hc : v.InCalendar now sent) :
    sent.count + v.options.allowedClockSkew.nanos + 999000000 <
      deadline ⟨nonce, v.expiry now sent, now⟩ := by
  unfold deadline
  rw [lifetime_of_inCalendar hn hs hc]
  show _ < now.count + _
  omega

/-- What is fresh is earlier than an instant nearly a second after the deadline set by the skew. The
exception is a leap second that the time of day hides. -/
theorem lt_deadline_of_isFresh (hs : sent.Ordinary) (hf : v.IsFresh t sent) {n : Int}
    (hn : sent.count + v.options.allowedClockSkew.nanos + 999000000 < n) :
    t < ofCount n ∨
      (¬ t.Ordinary ∧ t.secOfDay < sent.secOfDay ∧ t.nanos < 1001000000) := by
  have hnear := hf.2
  by_cases ht : t.Ordinary
  · rw [since_eq_sub ht hs] at hnear
    exact Or.inl (lt_ofCount_of_count_lt ht (by omega))
  · have hleap := ht
    rw [ordinary_iff] at hleap
    by_cases hday : sent.secOfDay ≤ t.secOfDay
    · rw [since_eq_of_secOfDay_le hs hday] at hnear
      refine Or.inl (lt_ofCount_of_secs_lt ?_)
      unfold count at *
      omega
    · by_cases hlate : t.nanos < 1001000000
      · exact Or.inr ⟨ht, by omega, hlate⟩
      · have hsecs := secs_le_of_since t hs
        obtain ⟨leap, hsince, hcases⟩ := exists_leap t sent
        refine Or.inl (lt_ofCount_of_secs_lt ?_)
        unfold count at *
        omega

end Verifier

end RemoteStore

end WebhookGuard

import WebhookGuard.Proofs.Verifier.Expiry

/-
  Claims under way. A claim is judged by the clock reading at the start of its call and takes effect
  later, while purges go by the clock as it stands. So a claim has to outlast its message by the
  time that another claim for the message may be under way (`OutlastsFlights`).

  A message with an ordinary timestamp is fresh from one instant to another (`isFresh_iff_le`). The
  claim made at the first of them expires no later than any other, and the claim that begins at the
  last of them is under way the longest, so these two decide (`outlastsFlights_iff`).
-/
namespace WebhookGuard

/-- What can be read off a clock. -/
def Instant.IsReading (t : Instant) : Prop := t.Ordinary ∧ t.InRange

instance (t : Instant) : Decidable t.IsReading := inferInstanceAs (Decidable (_ ∧ _))

namespace Verifier

open Instant

/-- Whatever claim for a message is under way at `c`, the record of any earlier claim for it is
still in the table when the table is purged at `c`. -/
def OutlastsFlights (v : Verifier) (sent : Instant) : Prop :=
  ∀ a b c : Instant, a.IsReading → b.IsReading → c.IsReading →
    v.IsFresh a sent → v.IsFresh b sent → a < .latest → b < .latest → a ≤ c → b ≤ c →
    c.since b ≤ v.options.storeTimeout.nanos → c.millis < (v.expiry a sent).millis

/-- The first instant at which a message is fresh. -/
def firstFresh (v : Verifier) (sent : Instant) : Instant :=
  ofCount (sent.count - v.options.allowedClockSkew.nanos)

/-- The last instant at which a message is fresh. -/
def lastFresh (v : Verifier) (sent : Instant) : Instant :=
  ofCount (sent.count +
    min (v.options.allowedClockSkew.nanos : Int) v.options.maxMessageAge.nanos)

/-- The last instant at which a claim for a message can be under way. -/
def lastFlight (v : Verifier) (sent : Instant) : Instant :=
  ofCount ((v.lastFresh sent).count + v.options.storeTimeout.nanos)

section Counts

variable {v : Verifier} {now sent : Instant}

theorem ordinary_firstFresh : (v.firstFresh sent).Ordinary := ordinary_ofCount _

theorem ordinary_lastFresh : (v.lastFresh sent).Ordinary := ordinary_ofCount _

theorem ordinary_lastFlight : (v.lastFlight sent).Ordinary := ordinary_ofCount _

theorem count_firstFresh :
    (v.firstFresh sent).count = sent.count - v.options.allowedClockSkew.nanos := count_ofCount _

theorem count_lastFresh : (v.lastFresh sent).count = sent.count +
    min (v.options.allowedClockSkew.nanos : Int) v.options.maxMessageAge.nanos := count_ofCount _

theorem count_lastFlight : (v.lastFlight sent).count =
    (v.lastFresh sent).count + v.options.storeTimeout.nanos := count_ofCount _

theorem isFresh_iff_le (hn : now.Ordinary) (hs : sent.Ordinary) :
    v.IsFresh now sent ↔ v.firstFresh sent ≤ now ∧ now ≤ v.lastFresh sent := by
  rw [count_le_iff ordinary_firstFresh hn, count_le_iff hn ordinary_lastFresh, count_firstFresh,
    count_lastFresh]
  unfold IsFresh
  rw [since_eq_sub hn hs]
  omega

theorem firstFresh_le_lastFresh : v.firstFresh sent ≤ v.lastFresh sent := by
  rw [count_le_iff ordinary_firstFresh ordinary_lastFresh, count_firstFresh, count_lastFresh]
  omega

theorem lastFresh_le_lastFlight : v.lastFresh sent ≤ v.lastFlight sent := by
  rw [count_le_iff ordinary_lastFresh ordinary_lastFlight, count_lastFlight]
  omega

/-- Of ordinary instants, the expiry is a second after the later of the two deadlines. -/
theorem count_of_sum {byAge bySkew e : Instant} (hn : now.Ordinary) (hs : sent.Ordinary)
    (hage : now.add? v.options.maxMessageAge = some byAge)
    (hskew : sent.add? v.options.allowedClockSkew = some bySkew)
    (he : (byAge.max bySkew).add? (.ofSecs 1) = some e) :
    e.count = max (now.count + v.options.maxMessageAge.nanos)
      (sent.count + v.options.allowedClockSkew.nanos) + 1000000000 := by
  rw [add?_eq hn] at hage
  rw [add?_eq hs] at hskew
  obtain ⟨-, rfl⟩ := inRange?_eq_some.mp hage
  obtain ⟨-, rfl⟩ := inRange?_eq_some.mp hskew
  have hage := ordinary_ofCount (now.count + v.options.maxMessageAge.nanos)
  have hskew := ordinary_ofCount (sent.count + v.options.allowedClockSkew.nanos)
  rw [add?_eq (ordinary_max hage hskew), count_max hage hskew] at he
  obtain ⟨-, rfl⟩ := inRange?_eq_some.mp he
  rw [count_ofCount, count_ofCount, count_ofCount]
  rfl

theorem count_expiry (hn : now.Ordinary) (hs : sent.Ordinary) (hc : v.InCalendar now sent) :
    (v.expiry now sent).count = max (now.count + v.options.maxMessageAge.nanos)
      (sent.count + v.options.allowedClockSkew.nanos) + 1000000000 := by
  obtain ⟨byAge, bySkew, hage, hskew, he⟩ := expiry_of_inCalendar hc
  exact count_of_sum hn hs hage hskew he

/-- The claim at `first` expires no later than those that are made after it. -/
theorem count_expiry_le {first : Instant} (hf : first.Ordinary) (hn : now.Ordinary)
    (hs : sent.Ordinary) (hc : v.InCalendar first sent) (hle : first ≤ now) :
    (v.expiry first sent).count ≤ (v.expiry now sent).count := by
  rw [count_le_iff hf hn] at hle
  rcases expiry_cases v now sent with he | ⟨byAge, bySkew, hage, hskew, he⟩
  · rw [he]
    exact (count_le_iff (v.expiry_ordinary first sent).1 (by decide)).mp
      (v.expiry_le_latest first sent)
  · rw [count_expiry hf hs hc, count_of_sum hn hs hage hskew he]
    omega

/-- A message stops being fresh before the end of the calendar, when its deadlines are within. -/
theorem lastFresh_lt_latest (hs : sent.Ordinary) (hc : v.InCalendar (v.firstFresh sent) sent) :
    v.lastFresh sent < .latest := by
  have hend := (count_le_iff (v.expiry_ordinary _ sent).1 (by decide)).mp
    (v.expiry_le_latest (v.firstFresh sent) sent)
  rw [count_expiry ordinary_firstFresh hs hc] at hend
  rw [count_lt_iff ordinary_lastFresh (by decide), count_lastFresh]
  omega

end Counts

/-- The earliest claim for a message has to outlast the latest one that can be under way. -/
theorem outlastsFlights_iff {v : Verifier} {sent : Instant} (hs : sent.Ordinary)
    (hfirst : (v.firstFresh sent).InRange) (hlast : (v.lastFlight sent).InRange)
    (hc : v.InCalendar (v.firstFresh sent) sent) :
    v.OutlastsFlights sent ↔
      (v.lastFlight sent).millis < (v.expiry (v.firstFresh sent) sent).millis := by
  have hfresh : v.firstFresh sent ≤ v.lastFresh sent := firstFresh_le_lastFresh
  have hflight : v.lastFresh sent ≤ v.lastFlight sent := lastFresh_le_lastFlight
  constructor
  · intro h
    have hend := lastFresh_lt_latest hs hc
    refine h _ (v.lastFresh sent) _ ⟨ordinary_firstFresh, hfirst⟩
      ⟨ordinary_lastFresh, inRange_of_le_of_le hfirst hlast hfresh hflight⟩
      ⟨ordinary_lastFlight, hlast⟩ ?_ ?_ (by grind) hend (by grind) hflight ?_
    · exact (isFresh_iff_le ordinary_firstFresh hs).mpr ⟨by grind, hfresh⟩
    · exact (isFresh_iff_le ordinary_lastFresh hs).mpr ⟨hfresh, by grind⟩
    · rw [since_eq_sub ordinary_lastFlight ordinary_lastFresh, count_lastFlight]
      omega
  · intro h a b c ha hb hcr hfa hfb _ _ _ _ hlate
    have hafter := ((isFresh_iff_le ha.1 hs).mp hfa).1
    have hbefore := (count_le_iff hb.1 ordinary_lastFresh).mp ((isFresh_iff_le hb.1 hs).mp hfb).2
    have hle := count_expiry_le ordinary_firstFresh ha.1 hs hc hafter
    rw [since_eq_sub hcr.1 hb.1] at hlate
    rw [millis_eq_count_div, millis_eq_count_div, count_lastFlight] at h
    rw [millis_eq_count_div, millis_eq_count_div]
    omega

/-- The same in terms of the options. -/
theorem lastFlight_lt_expiry_iff {v : Verifier} {sent : Instant} (hs : sent.Ordinary)
    (hc : v.InCalendar (v.firstFresh sent) sent) :
    (v.lastFlight sent).millis < (v.expiry (v.firstFresh sent) sent).millis ↔
      (sent.count + min (v.options.allowedClockSkew.nanos : Int) v.options.maxMessageAge.nanos +
        v.options.storeTimeout.nanos) / 1000000 <
      (sent.count + max (v.options.allowedClockSkew.nanos : Int)
        (v.options.maxMessageAge.nanos - v.options.allowedClockSkew.nanos) + 1000000000) /
        1000000 := by
  rw [millis_eq_count_div, millis_eq_count_div, count_lastFlight, count_lastFresh,
    count_expiry ordinary_firstFresh hs hc, count_firstFresh]
  omega

end Verifier

end WebhookGuard

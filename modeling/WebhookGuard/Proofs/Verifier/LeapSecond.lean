import WebhookGuard.Proofs.Verifier.Expiry
import WebhookGuard.Proofs.Verifier.Signed

/-
  Claims for messages that were sent in a leap second. Such a timestamp is counted in two ways. The
  sum behind the expiry leaves the leap second out. The difference that decides how fresh a message
  is counts it only when the clock shows a later time of day than the timestamp, on whatever date,
  and otherwise the message seems a second younger.

  A claim lasts a second longer than the skew asks for, and this second is just what the two ways
  differ by. So a claim outlasts its message except at a single instant, the last at which the
  message is fresh, when the clock has passed midnight since the message was sent and the claim
  owes its length to the skew (`Lapses`, `outlasts_iff`). The default options rule that out
  (`not_lapses_of_options`).
-/
namespace WebhookGuard

namespace Instant

/-- The difference to a timestamp in a leap second, by the time of day. -/
theorem since_of_leap {now sent : Instant} (hn : now.Ordinary) (hs : ¬ sent.Ordinary) :
    (sent.secOfDay < now.secOfDay ∧ now.since sent = now.count - sent.count + 1000000000) ∨
      (now.secOfDay ≤ sent.secOfDay ∧ now.since sent = now.count - sent.count) := by
  rw [ordinary_iff] at hn hs
  simp only [since, count, nanosPerSec]
  omega

/-- In one and the same second a leap second comes last. -/
theorem lt_iff_of_leap {a b : Instant} (ha : a.Ordinary) (hb : ¬ b.Ordinary) :
    a < b ↔ a.secs ≤ b.secs := by
  rw [ordinary_iff] at ha hb
  rw [lt_iff]
  omega

/-- A sum steps out of a leap second as if it had not been there, or stays within it. -/
theorem add?_of_leap {t r : Instant} {d : Duration} (ht : ¬ t.Ordinary) (h : t.add? d = some r) :
    (r.Ordinary ∧ r.count = t.count - 1000000000 + d.nanos) ∨
      (¬ r.Ordinary ∧ r.secs = t.secs ∧ r.count = t.count + d.nanos ∧
        t.nanos + d.nanos < 2000000000) := by
  rw [ordinary_iff] at ht
  simp only [add?] at h
  split at h
  · next hstays =>
    obtain ⟨-, rfl⟩ := inRange?_eq_some.mp h
    unfold Duration.secs nanosPerSec at hstays
    right
    rw [ordinary_iff]
    unfold nanosPerSec
    simp only [count]
    refine ⟨?_, trivial, ?_⟩
    · omega
    · omega
  · obtain ⟨-, rfl⟩ := inRange?_eq_some.mp h
    left
    rw [ordinary_iff, if_pos (by unfold nanosPerSec; omega)]
    unfold Duration.secs nanosPerSec
    simp only [count]
    omega

end Instant

namespace Verifier

open Instant

variable {v : Verifier} {now now' sent : Instant}

/-- The claim made at `now` has run out at `now'`, although the message is still fresh then. It was
sent in a leap second that the time of day at `now'` hides, it is as old as the skew allows, and it
was presented so early that its age does not prolong the claim. -/
def Lapses (v : Verifier) (now now' sent : Instant) : Prop :=
  ¬ sent.Ordinary ∧ now'.secOfDay ≤ sent.secOfDay ∧
    now'.since sent = v.options.allowedClockSkew.nanos ∧
    now.count + v.options.maxMessageAge.nanos + 1000000000 ≤
      sent.count + v.options.allowedClockSkew.nanos

instance (v : Verifier) (now now' sent : Instant) : Decidable (v.Lapses now now' sent) :=
  inferInstanceAs (Decidable (_ ∧ _ ∧ _ ∧ _))

/-- A second later than an instant, by the count. -/
theorem count_of_add_second {t e : Instant} (h : t.add? (.ofSecs 1) = some e) :
    e.count = if t.Ordinary then t.count + 1000000000 else t.count := by
  have hsecond : (Duration.ofSecs 1).nanos = 1000000000 := rfl
  split
  · next ht =>
    rw [add?_eq ht] at h
    obtain ⟨-, rfl⟩ := inRange?_eq_some.mp h
    rw [count_ofCount, hsecond]
    omega
  · next ht =>
    rcases add?_of_leap ht h with ⟨-, hcount⟩ | ⟨-, -, -, hshort⟩
    · omega
    · rw [ordinary_iff] at ht
      omega

/-- While a message from a leap second is fresh, the clock is ahead of it by no more than the skew,
and by as much only where the time of day hides the leap second. -/
theorem count_le_of_fresh (hn' : now'.Ordinary) (hs : ¬ sent.Ordinary) (hf' : v.IsFresh now' sent) :
    now'.count ≤ sent.count + v.options.allowedClockSkew.nanos ∧
      (now'.count = sent.count + v.options.allowedClockSkew.nanos ↔
        now'.secOfDay ≤ sent.secOfDay ∧
          now'.since sent = v.options.allowedClockSkew.nanos) := by
  have hdist := since_of_leap hn' hs
  have hnear := hf'.2
  omega

/-- A claim whose deadline by the skew leaves the leap second. -/
theorem lt_expiry_iff_of_leaves {e : Instant} (hn' : now'.Ordinary) (hs : ¬ sent.Ordinary)
    (hf' : v.IsFresh now' sent)
    (he : e.count = max (now.count + v.options.maxMessageAge.nanos)
      (sent.count - 1000000000 + v.options.allowedClockSkew.nanos) + 1000000000) :
    now'.count < e.count ↔ ¬ v.Lapses now now' sent := by
  obtain ⟨hle, hlast⟩ := count_le_of_fresh hn' hs hf'
  unfold Lapses
  rw [and_iff_right hs, ← and_assoc, ← hlast]
  omega

/-- Where the skew does not lead out of the leap second, no claim lapses. -/
theorem lt_expiry_of_stays {bySkew e : Instant} (hn : now.Ordinary) (hn' : now'.Ordinary)
    (hs : ¬ sent.Ordinary) (hf : v.IsFresh now sent) (hf' : v.IsFresh now' sent)
    (hleap : ¬ bySkew.Ordinary) (hsecs : bySkew.secs = sent.secs)
    (hstays : bySkew.count = sent.count + v.options.allowedClockSkew.nanos)
    (hshort : sent.nanos + v.options.allowedClockSkew.nanos < 2000000000)
    (hsum : ((ofCount (now.count + v.options.maxMessageAge.nanos)).max bySkew).add? (.ofSecs 1) =
      some e) : now'.count < e.count ∧ ¬ v.Lapses now now' sent := by
  have hcount := count_of_add_second hsum
  obtain ⟨hle, hlast⟩ := count_le_of_fresh hn' hs hf'
  unfold Lapses
  rw [and_iff_right hs, ← and_assoc, ← hlast]
  have hnanos : 1000000000 ≤ sent.nanos := by
    rw [ordinary_iff] at hs
    omega
  have hsent : sent.count = sent.secs * 1000000000 + sent.nanos := rfl
  by_cases hlate : ofCount (now.count + v.options.maxMessageAge.nanos) < bySkew
  · rw [show Instant.max _ bySkew = bySkew from if_pos hlate, if_neg hleap, hstays] at hcount
    rw [lt_iff_of_leap (ordinary_ofCount _) hleap, hsecs, secs_ofCount] at hlate
    suffices hne : now'.count ≠ sent.count + v.options.allowedClockSkew.nanos by omega
    intro heq
    -- The message was sent just before midnight, so the time of day was no later at `now` either.
    obtain ⟨hhidden, hold⟩ := hlast.mp heq
    have hmidnight : sent.secOfDay = 86399 := by
      rw [ordinary_iff] at hn'
      simp only [secOfDay, secsPerDay, count] at *
      omega
    have hday : now.secOfDay ≤ sent.secOfDay := by
      rw [hmidnight]
      simp only [secOfDay, secsPerDay]
      omega
    have hdist := since_of_leap hn hs
    have hnear := hf.2
    have hyoung := hf'.1
    omega
  · rw [show Instant.max _ bySkew = _ from if_neg hlate, if_pos (ordinary_ofCount _),
      count_ofCount] at hcount
    rw [lt_iff_of_leap (ordinary_ofCount _) hleap, hsecs, secs_ofCount] at hlate
    omega

theorem lt_expiry_iff_of_leap (hn : now.Ordinary) (hn' : now'.Ordinary) (hs : ¬ sent.Ordinary)
    (hf : v.IsFresh now sent) (hf' : v.IsFresh now' sent) {byAge bySkew : Instant}
    (hage : now.add? v.options.maxMessageAge = some byAge)
    (hskew : sent.add? v.options.allowedClockSkew = some bySkew)
    (hsum : (byAge.max bySkew).add? (.ofSecs 1) = some (v.expiry now sent)) :
    now' < v.expiry now sent ↔ ¬ v.Lapses now now' sent := by
  rw [count_lt_iff hn' (v.expiry_ordinary now sent).1]
  rw [add?_eq hn] at hage
  obtain ⟨-, rfl⟩ := inRange?_eq_some.mp hage
  rcases add?_of_leap hs hskew with ⟨hord, hleaves⟩ | ⟨hleap, hsecs, hstays, hshort⟩
  · have hord' := ordinary_ofCount (now.count + v.options.maxMessageAge.nanos)
    have hcount := count_of_add_second hsum
    rw [if_pos (ordinary_max hord' hord), count_max hord' hord, count_ofCount, hleaves] at hcount
    exact lt_expiry_iff_of_leaves hn' hs hf' hcount
  · obtain ⟨hlt, hnever⟩ := lt_expiry_of_stays hn hn' hs hf hf' hleap hsecs hstays hshort hsum
    exact iff_of_true hlt hnever

/-- No claim lapses where messages turn too old before they are as old as the skew allows, or where
the age prolongs every claim enough. The second is so by default. -/
theorem not_lapses_of_options (hn : now.Ordinary) (hn' : now'.Ordinary) (hsent : sent.WellFormed)
    (hf : v.IsFresh now sent) (hf' : v.IsFresh now' sent)
    (hoptions : v.options.maxMessageAge.nanos < v.options.allowedClockSkew.nanos ∨
      2 * v.options.allowedClockSkew.nanos ≤ v.options.maxMessageAge.nanos ∧
        v.options.allowedClockSkew.nanos < 43199000000000) :
    ¬ v.Lapses now now' sent := by
  rintro ⟨hs, hhidden, hold, hearly⟩
  obtain ⟨-, hnear⟩ := hf
  obtain ⟨hyoung', -⟩ := hf'
  have hdist := since_of_leap hn hs
  have hdist' := since_of_leap hn' hs
  rcases hoptions with hage | ⟨hage, hshort⟩
  · omega
  · have hnanos : sent.nanos < 2000000000 := by
      rcases hsent.2 with h | ⟨h, -⟩
      · exact absurd h hs
      · exact h
    rw [ordinary_iff] at hn hn' hs
    simp only [secOfDay, secsPerDay, count] at *
    omega

/-- A claim outlasts its message, or ends with the calendar, except where it lapses. -/
theorem outlasts_iff (hn : now.Ordinary) (hn' : now'.Ordinary) (hf : v.IsFresh now sent)
    (hf' : v.IsFresh now' sent) :
    (v.expiry now sent = .latest ∨ now' < v.expiry now sent) ↔
      (v.expiry now sent = .latest ∨ ¬ v.Lapses now now' sent) := by
  by_cases hs : sent.Ordinary
  · have hnever : ¬ v.Lapses now now' sent := fun hlapses => hlapses.1 hs
    have houtlasts := (secs_lt_expiry hs hf' now).imp_right lt_of_secs_lt
    exact ⟨fun _ => Or.inr hnever, fun _ => houtlasts⟩
  · rcases expiry_cases v now sent with hlatest | ⟨byAge, bySkew, hage, hskew, hsum⟩
    · simp only [hlatest, true_or]
    · exact or_congr_right (lt_expiry_iff_of_leap hn hn' hs hf hf' hage hskew hsum)

/-- A verifier that takes messages up to 400 s old, from a clock up to 300 s off. -/
def skewBound : Verifier where
  options := { secret := [107], maxMessageAge := .ofSecs 400 }
  sound := by decide

/-- A message of the leap second at the end of 2016 is claimed at 23:58:30 until after 00:05:00, the
last moment at which it is fresh. -/
theorem outlasts_of_late_claim :
    (⟨1483229100, 0⟩ : Instant) <
      skewBound.expiry ⟨1483228710, 0⟩ ⟨1483228799, 1000000000⟩ := by
  have hfresh : skewBound.IsFresh ⟨1483228710, 0⟩ ⟨1483228799, 1000000000⟩ := by decide
  have hfresh' : skewBound.IsFresh ⟨1483229100, 0⟩ ⟨1483228799, 1000000000⟩ := by decide
  have hnever : ¬ skewBound.Lapses ⟨1483228710, 0⟩ ⟨1483229100, 0⟩ ⟨1483228799, 1000000000⟩ := by
    decide
  have h := (outlasts_iff (by decide) (by decide) hfresh hfresh').mpr (Or.inr hnever)
  exact h.resolve_left (by decide)

/-- Claimed at 23:55:00, the message is free again at 00:05:00, when it is still fresh. -/
theorem not_outlasts_of_early_claim :
    Timestamp.read? skewBound.options.timestampPolicy "2016-12-31T23:59:60Z" =
      some ⟨1483228799, 1000000000⟩ ∧
    (⟨1483228500, 0⟩ : Instant).Ordinary ∧ (⟨1483229100, 0⟩ : Instant).Ordinary ∧
    (⟨1483228500, 0⟩ : Instant) ≤ ⟨1483229100, 0⟩ ∧
    skewBound.IsFresh ⟨1483228500, 0⟩ ⟨1483228799, 1000000000⟩ ∧
    skewBound.IsFresh ⟨1483229100, 0⟩ ⟨1483228799, 1000000000⟩ ∧
    skewBound.expiry ⟨1483228500, 0⟩ ⟨1483228799, 1000000000⟩ ≠ .latest ∧
    ¬ (⟨1483229100, 0⟩ : Instant) <
      skewBound.expiry ⟨1483228500, 0⟩ ⟨1483228799, 1000000000⟩ := by
  refine ⟨?_, by decide, by decide, by decide, by decide, by decide, by decide, by decide⟩
  decide +kernel

end Verifier

end WebhookGuard

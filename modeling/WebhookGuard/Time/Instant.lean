import WebhookGuard.Time.Duration

/-
  Instants of Coordinated Universal Time. An instant is a number of whole seconds since
  1970-01-01T00:00:00Z, rounded down, and the nanoseconds past it. A second that is the last of
  its minute may be a leap second: it then lasts twice as long, and its nanoseconds run on from
  10^9 up to 2*10^9.

  A leap second is no second of the count. Differences see it only through the time of day: the
  second day-time of the earlier operand gains one second when it is leap, whatever day it falls
  on. Sums step out of a leap second onto the following ordinary one.
-/
namespace WebhookGuard

/-- An instant of Coordinated Universal Time. -/
structure Instant where
  /-- Whole seconds since the start of 1970, rounded down. -/
  secs : Int
  /-- Nanoseconds past the second, up to twice a second when it is a leap second. -/
  nanos : Nat
deriving DecidableEq, Repr

namespace Instant

/-- Nanoseconds in a second. -/
def nanosPerSec : Nat := 1000000000

/-- Seconds in a day. -/
def secsPerDay : Int := 86400

/-- The first second that a date can be written for, the start of the year -262143. -/
def firstSec : Int := -8334601228800

/-- The last second that a date can be written for, the end of the year 262142. -/
def lastSec : Int := 8210266876799

/-- The last ordinary instant. -/
def latest : Instant := ⟨lastSec, 999999999⟩

/-- An instant outside any leap second. -/
def Ordinary (t : Instant) : Prop := t.nanos < nanosPerSec

instance (t : Instant) : Decidable t.Ordinary := inferInstanceAs (Decidable (_ < _))

/-- The second is within the calendar. -/
def InRange (t : Instant) : Prop := firstSec ≤ t.secs ∧ t.secs ≤ lastSec

instance (t : Instant) : Decidable t.InRange := inferInstanceAs (Decidable (_ ∧ _))

/-- A well-formed instant: within the calendar, and leap only at the end of a minute. -/
def WellFormed (t : Instant) : Prop :=
  t.InRange ∧ (t.Ordinary ∨ (t.nanos < 2 * nanosPerSec ∧ t.secs % 60 = 59))

instance (t : Instant) : Decidable t.WellFormed := inferInstanceAs (Decidable (_ ∧ _))

/-- Instants are ordered by the second, then by the nanosecond. -/
instance : LT Instant where
  lt a b := a.secs < b.secs ∨ (a.secs = b.secs ∧ a.nanos < b.nanos)

instance : LE Instant where
  le a b := a.secs < b.secs ∨ (a.secs = b.secs ∧ a.nanos ≤ b.nanos)

instance (a b : Instant) : Decidable (a < b) := inferInstanceAs (Decidable (_ ∨ _))

instance (a b : Instant) : Decidable (a ≤ b) := inferInstanceAs (Decidable (_ ∨ _))

/-- The later of two instants. -/
def max (a b : Instant) : Instant := if a < b then b else a

/-- The instant within the calendar, if it is. -/
def inRange? (t : Instant) : Option Instant :=
  if t.InRange then some t else none

/-- The second of the day. -/
def secOfDay (t : Instant) : Int := t.secs % secsPerDay

/-- The nanoseconds from `b` to `a`, negative when `a` is earlier. A leap second that the time of
day of the operands steps over counts for one second more. -/
def since (a b : Instant) : Int :=
  let leap : Int :=
    if b.secOfDay < a.secOfDay ∧ nanosPerSec ≤ b.nanos then 1
    else if a.secOfDay < b.secOfDay ∧ nanosPerSec ≤ a.nanos then -1
    else 0
  (a.secs - b.secs + leap) * nanosPerSec + (a.nanos - b.nanos)

/-- The instant a duration later, if the calendar reaches that far. Within a leap second a part of
a second may pass; whatever leads out of it counts from the ordinary second before it. -/
def add? (t : Instant) (d : Duration) : Option Instant :=
  let part := d.nanos % nanosPerSec
  let leaves := 0 < d.secs ∨ 2 * nanosPerSec ≤ t.nanos + part
  if nanosPerSec ≤ t.nanos ∧ ¬ leaves then inRange? ⟨t.secs, t.nanos + part⟩
  else
    let nanos := (if nanosPerSec ≤ t.nanos then t.nanos - nanosPerSec else t.nanos) + part
    inRange? ⟨t.secs + d.secs + (nanos / nanosPerSec : Nat), nanos % nanosPerSec⟩

/-- The instant in milliseconds, rounded down. -/
def millis (t : Instant) : Int := t.secs * 1000 + (t.nanos / 1000000 : Nat)

/-- The instant at a number of milliseconds, if the calendar holds it. -/
def ofMillis? (n : Int) : Option Instant :=
  inRange? ⟨n / 1000, (n % 1000).toNat * 1000000⟩

/-- The instant at a number of seconds, if the calendar holds it. -/
def ofSecs? (n : Int) : Option Instant := inRange? ⟨n, 0⟩

end Instant

end WebhookGuard

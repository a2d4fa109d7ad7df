/-
  Durations, exact to the nanosecond. A duration is shown in the largest of the units second,
  millisecond, microsecond and nanosecond that it fills, with as many decimals as it needs.
-/
namespace WebhookGuard

/-- A length of time in nanoseconds. -/
structure Duration where
  nanos : Nat
deriving DecidableEq, Repr

namespace Duration

/-- A number of seconds. -/
def ofSecs (n : Nat) : Duration := ⟨n * 1000000000⟩

/-- A number of milliseconds. -/
def ofMillis (n : Nat) : Duration := ⟨n * 1000000⟩

/-- No time at all. -/
def zero : Duration := ⟨0⟩

/-- The whole seconds of a duration. -/
def secs (d : Duration) : Nat := d.nanos / 1000000000

/-- The whole milliseconds of a duration, with a begun one counted as whole. -/
def ceilMillis (d : Duration) : Nat := (d.nanos + 999999) / 1000000

instance : LE Duration := ⟨fun a b => a.nanos ≤ b.nanos⟩

instance : LT Duration := ⟨fun a b => a.nanos < b.nanos⟩

instance (a b : Duration) : Decidable (a ≤ b) := inferInstanceAs (Decidable (a.nanos ≤ b.nanos))

instance (a b : Duration) : Decidable (a < b) := inferInstanceAs (Decidable (a.nanos < b.nanos))

theorem le_iff {a b : Duration} : a ≤ b ↔ a.nanos ≤ b.nanos := Iff.rfl

theorem lt_iff {a b : Duration} : a < b ↔ a.nanos < b.nanos := Iff.rfl

instance : Add Duration := ⟨fun a b => ⟨a.nanos + b.nanos⟩⟩

/-- The longer of two durations. -/
def max (a b : Duration) : Duration := if a < b then b else a

/-- The shorter of two durations. -/
def min (a b : Duration) : Duration := if b < a then b else a

theorem min_eq_or_eq (a b : Duration) : a.min b = a ∨ a.min b = b := by
  unfold min
  split
  · exact Or.inr rfl
  · exact Or.inl rfl

theorem min_le_left (a b : Duration) : a.min b ≤ a := by
  unfold min
  split
  · next h => exact Nat.le_of_lt h
  · exact Nat.le_refl _

theorem min_le_right (a b : Duration) : a.min b ≤ b := by
  unfold min
  split
  · exact Nat.le_refl _
  · next h => exact Nat.le_of_not_lt h

/-- A number written with exactly `width` digits. -/
def fixedNumeral (width n : Nat) : List Char :=
  let digits := Nat.toDigits 10 n
  List.replicate (width - digits.length) '0' ++ digits

/-- The decimals for `part` of `10 ^ places`: none for zero, and none of the last ones zero. -/
def decimals (places part : Nat) : List Char :=
  if part = 0 then []
  else '.' :: ((fixedNumeral places part).reverse.dropWhile (· == '0')).reverse

/-- A duration in units of `10 ^ places` nanoseconds. -/
def inUnit (d : Duration) (places : Nat) (unit : String) : String :=
  let size := Nat.pow 10 places
  String.ofList (Nat.toDigits 10 (d.nanos / size) ++ decimals places (d.nanos % size)) ++ unit

/-- A duration in the largest unit that it fills. -/
def text (d : Duration) : String :=
  if 1000000000 ≤ d.nanos then d.inUnit 9 "s"
  else if 1000000 ≤ d.nanos then d.inUnit 6 "ms"
  else if 1000 ≤ d.nanos then d.inUnit 3 "µs"
  else d.inUnit 0 "ns"

example : text ⟨300000000000⟩ = "300s" := by decide +kernel

example : text ⟨1500000⟩ = "1.5ms" := by decide +kernel

end Duration

end WebhookGuard

import WebhookGuard.Compression.Brotli.PrefixCode

/-
  Distances. The first symbols stand for one of the last four distances or for a neighbour of one of
  the last two. Some more may stand for a distance each, and the others for ranges of distances,
  which grow with the symbol; the low bits of a distance may be in the symbol itself.
-/
namespace WebhookGuard.Compression.Brotli

/-- The distances of the last copies, the last one first. -/
structure Recent where
  first : Nat := 4
  second : Nat := 11
  third : Nat := 15
  fourth : Nat := 16
deriving DecidableEq, Repr

namespace Recent

/-- The distances after one more copy. -/
def push (r : Recent) (distance : Nat) : Recent := ⟨distance, r.first, r.second, r.third⟩

/-- The neighbours that have a symbol, as the differences from a distance. -/
def neighbours : List Int := [-1, 1, -2, 2, -3, 3]

/-- The distance for one of the first symbols. A neighbour may be too small to be one. -/
def distance? (r : Recent) (symbol : Nat) : Option Nat :=
  match symbol with
  | 0 => some r.first
  | 1 => some r.second
  | 2 => some r.third
  | 3 => some r.fourth
  | _ =>
    let near : Int := if symbol < 10 then r.first else r.second
    let difference := neighbours.getD ((symbol - 4) % 6) 0
    if near + difference ≤ 0 then none else some (near + difference).toNat

/-- How many symbols stand for recent distances and their neighbours. -/
def symbols : Nat := 16

end Recent

/-- How distances are written in a meta-block. -/
structure DistanceForm where
  /-- How many low bits of a distance are in the symbol. -/
  lowBits : Nat := 0
  /-- How many distances have a symbol each. -/
  direct : Nat := 0
deriving DecidableEq, Repr

namespace DistanceForm

/-- The greatest distance that there is. -/
def limit : Nat := 0x7FFFFFFC

/-- The symbols for distances. Data with a large window has more of them, but for the greatest
distances those beyond `limit` may not be used. -/
def alphabet (form : DistanceForm) (isLarge : Bool) : Alphabet :=
  let size (bits : Nat) := Recent.symbols + form.direct + bits <<< (form.lowBits + 1)
  let inDirect := max form.direct (min form.direct (4 <<< form.lowBits - 4) + 1 <<< form.lowBits)
  let inRanges := (57 - 2 * form.lowBits) <<< form.lowBits
  if isLarge then ⟨size 62, Recent.symbols + inDirect + inRanges⟩ else ⟨size 24, size 24⟩

/-- Reads the form. -/
def read (b : Bits) : Except Stop (DistanceForm × Bits) := do
  let (lowBits, b) ← b.take 2
  let (direct, b) ← b.take 4
  return ({ lowBits, direct := direct <<< lowBits }, b)

/-- Reads what is missing of a distance whose symbol is beyond the recent ones. -/
def readDistance (form : DistanceForm) (symbol : Nat) (b : Bits) : Except Stop (Nat × Bits) := do
  let n := symbol - Recent.symbols
  if n < form.direct then return (n + 1, b)
  let n := n - form.direct
  let range := n >>> form.lowBits
  let width := range / 2 + 1
  let (bits, b) ← b.take width
  let high := (2 + range % 2) <<< width - 4 + bits
  return (form.direct + high <<< form.lowBits + n % 1 <<< form.lowBits + 1, b)

end DistanceForm

end WebhookGuard.Compression.Brotli

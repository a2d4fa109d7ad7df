import WebhookGuard.Compression.Brotli.PrefixCode

/-
  Contexts. Which code the next symbol is in depends on what came before: for a byte on the two
  bytes before it, for a distance on the length of the copy. A map gives the code for every context
  of every type of block.
-/
namespace WebhookGuard.Compression.Brotli

/-- A way of making a context of the last two bytes. -/
inductive ContextMode where
  /-- The low bits of the last byte. -/
  | low
  /-- The high bits of the last byte. -/
  | high
  /-- The kinds of characters that the bytes are in a text. -/
  | text
  /-- The sizes of the bytes as numbers that have a sign. -/
  | signed
deriving DecidableEq, Repr

namespace ContextMode

/-- The mode for a number of two bits. -/
def ofBits : Nat → ContextMode
  | 0 => low
  | 1 => high
  | 2 => text
  | _ => signed

/-- The kinds of the characters of ASCII before the letters, as the last byte. -/
def signKinds : List Nat :=
  [ 0, 0, 0, 0, 0, 0, 0, 0, 0, 4, 4, 0, 0, 4, 0, 0, 0, 0, 0, 0, 0, 0, 0, 0, 0, 0, 0, 0, 0, 0, 0, 0,
    8, 12, 16, 12, 12, 20, 12, 16, 24, 28, 12, 12, 32, 12, 36, 12,
    44, 44, 44, 44, 44, 44, 44, 44, 44, 44, 32, 32, 24, 40, 28, 12, 12 ]

/-- Whether a byte is a vowel among the letters of ASCII. -/
def isVowel (b : UInt8) : Bool :=
  [0x41, 0x45, 0x49, 0x4F, 0x55].contains (b &&& 0xDF)

/-- What the last byte adds to the context of a text. -/
def lastKind (b : UInt8) : Nat :=
  let n := b.toNat
  if n ≤ 64 then signKinds.getD n 0
  else if n ≤ 90 then if isVowel b then 48 else 52
  else if n ≤ 96 then [24, 12, 28, 12, 12, 12].getD (n - 91) 0
  else if n ≤ 122 then if isVowel b then 56 else 60
  else if n ≤ 126 then [24, 12, 28, 12].getD (n - 123) 0
  else if n = 127 then 0
  else if n ≤ 191 then n % 2
  else 2 + n % 2

/-- What the byte before the last one adds to the context of a text. -/
def earlierKind (b : UInt8) : Nat :=
  let n := b.toNat
  if n ≤ 32 then 0
  else if n ≤ 47 then 1
  else if n ≤ 57 then 2
  else if n ≤ 64 then 1
  else if n ≤ 90 then 2
  else if n ≤ 96 then 1
  else if n ≤ 122 then 3
  else if n ≤ 126 then 1
  else if n ≤ 223 then 0
  else 2

/-- The size of a byte, in eight steps. -/
def magnitude (b : UInt8) : Nat :=
  let n := b.toNat
  if n = 0 then 0
  else if n ≤ 15 then 1
  else if n ≤ 63 then 2
  else if n ≤ 127 then 3
  else if n ≤ 191 then 4
  else if n ≤ 239 then 5
  else if n ≤ 254 then 6
  else 7

/-- The context, from the last byte and the one before it. -/
def context (mode : ContextMode) (last earlier : UInt8) : Nat :=
  match mode with
  | low => last.toNat % 64
  | high => last.toNat / 4
  | text => lastKind last ||| earlierKind earlier
  | signed => 8 * magnitude last + magnitude earlier

/-- There are 64 contexts of a byte. -/
theorem context_lt (mode : ContextMode) (last earlier : UInt8) :
    mode.context last earlier < 64 := by
  have hb := last.toNat_lt
  cases mode with
  | low => exact Nat.mod_lt _ (by decide)
  | high => simp only [context]; omega
  | text =>
    have h : ∀ b : Fin 256, lastKind (UInt8.ofNat b) < 2 ^ 6 := by decide +kernel
    have h' : ∀ b : Fin 256, earlierKind (UInt8.ofNat b) < 2 ^ 6 := by decide +kernel
    have l := h ⟨last.toNat, last.toNat_lt⟩
    have e := h' ⟨earlier.toNat, earlier.toNat_lt⟩
    rw [UInt8.ofNat_toNat] at l e
    exact Nat.or_lt_two_pow l e
  | signed =>
    have h : ∀ b : UInt8, magnitude b ≤ 7 := by intro b; simp only [magnitude]; grind
    have l := h last
    have e := h earlier
    simp only [context]
    omega

end ContextMode

/-- Reads the entries of a context map until there are `size`; those read so far are in reverse
order, and each step reads at least one. A symbol up to `longest` is a run of zeros. -/
def readEntries (c : PrefixCode) (longest : Nat) :
    Nat → Nat → List Nat → Bits → Except Stop (List Nat × Bits)
  | 0, _, read, b => .ok (read.reverse, b)
  | _, 0, read, b => .ok (read.reverse, b)
  | fuel + 1, left + 1, read, b => do
    let (symbol, b) ← c.read b
    if symbol = 0 then readEntries c longest fuel left (0 :: read) b
    else if longest < symbol then readEntries c longest fuel left ((symbol - longest) :: read) b
    else
      let (n, b) ← b.take symbol
      let run := 1 <<< symbol + n
      if left + 1 < run then .error .malformed
      else readEntries c longest fuel (left + 1 - run) (List.replicate run 0 ++ read) b

/-- Undoes moving to the front: each number is a place in a list, whose entry there moves to its
front. -/
def undoMoves : List Nat → List Nat → List Nat
  | _, [] => []
  | recent, place :: places =>
    let entry := recent.getD place 0
    entry :: undoMoves (entry :: recent.eraseIdx place) places

/-- Reads a context map of some size, and how many codes it has. -/
def readContextMap (size : Nat) (b : Bits) : Except Stop (Nat × Array Nat × Bits) := do
  let (more, b) ← readSmall b
  if more = 0 then return (1, Array.replicate size 0, b)
  let (hasRuns, b) ← b.take 1
  let (longest, b) ← if hasRuns = 1 then (b.take 4).map fun (n, b) => (n + 1, b) else .ok (0, b)
  let (code, b) ← PrefixCode.readCode { size := more + 1 + longest } b
  let (entries, b) ← readEntries code longest size size [] b
  let (isMoved, b) ← b.take 1
  let entries := if isMoved = 1 then undoMoves (List.range 256) entries else entries
  return (more + 1, entries.toArray, b)

end WebhookGuard.Compression.Brotli

import WebhookGuard.Compression.Buffer

/-
  Bits. A buffer is read bit by bit, the lowest bit of each byte first; several bits taken at once
  make a number whose lowest bit is the first.
-/
namespace WebhookGuard.Compression

/-- Why unpacking stops before its end. -/
inductive Stop where
  /-- The data ends. -/
  | truncated
  /-- The data cannot go on this way. -/
  | malformed
deriving DecidableEq, Repr

/-- A buffer, and how many of its bits have been read. -/
structure Bits where
  buffer : ByteArray
  pos : Nat := 0

namespace Bits

/-- How many bits there are in all. -/
def size (b : Bits) : Nat := 8 * b.buffer.size

/-- The next bits as a number, read or not. Beyond the end there are zeros. -/
def peek (b : Bits) (count : Nat) : Nat :=
  let shift := b.pos % 8
  (numberAt b.buffer (b.pos / 8) ((shift + count + 7) / 8) >>> shift) % (1 <<< count)

/-- The bits after the next ones. -/
def skip (b : Bits) (count : Nat) : Bits := { b with pos := b.pos + count }

/-- Reads the next bits. -/
def take (b : Bits) (count : Nat) : Except Stop (Nat × Bits) :=
  if b.pos + count ≤ b.size then .ok (b.peek count, b.skip count) else .error .truncated

/-- The bits from the next whole byte on. -/
def align (b : Bits) : Bits := { b with pos := (b.pos + 7) / 8 * 8 }

/-- How many whole bytes are left. -/
def bytesLeft (b : Bits) : Nat := b.buffer.size - (b.pos + 7) / 8

/-- Reads numbers of so many bits each. -/
def takeMany (b : Bits) (width : Nat) : Nat → Except Stop (List Nat × Bits)
  | 0 => .ok ([], b)
  | count + 1 => do
    let (n, b) ← b.take width
    let (ns, b) ← takeMany b width count
    return (n :: ns, b)

theorem peek_lt (b : Bits) (count : Nat) : b.peek count < 1 <<< count := by
  have h : 0 < 1 <<< count := by
    rw [Nat.shiftLeft_eq, Nat.one_mul]
    exact Nat.two_pow_pos count
  exact Nat.mod_lt _ h

/-- Reading bits moves on by as many. -/
theorem take_eq_ok {b b' : Bits} {count n : Nat} (h : b.take count = .ok (n, b')) :
    n < 1 <<< count ∧ b' = b.skip count ∧ b'.pos ≤ b.size := by
  rw [take] at h
  split at h
  · obtain ⟨rfl, rfl⟩ := Prod.mk.inj (Except.ok.inj h)
    exact ⟨b.peek_lt count, rfl, by simpa [skip]⟩
  · cases h

end Bits

end WebhookGuard.Compression

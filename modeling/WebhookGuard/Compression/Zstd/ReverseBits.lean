import WebhookGuard.Compression.Bits

/-
  Bits from the end. A buffer is read bit by bit from its end to its start. Its last byte is not
  zero, and the highest one in it marks the end. Several bits taken at once make a number whose
  highest bit is the first.
-/
namespace WebhookGuard.Compression.Zstd

/-- A buffer that is read from its end, and how many of its bits are left. -/
structure ReverseBits where
  buffer : ByteArray
  left : Nat

namespace ReverseBits

/-- The bits of a buffer. -/
def ofBuffer? (buffer : ByteArray) : Option ReverseBits :=
  let last := byteAt buffer (buffer.size - 1)
  if last = 0 then none else some ⟨buffer, 8 * (buffer.size - 1) + last.toNat.log2⟩

/-- The next bits as a number, read or not. Before the start there are zeros. -/
def peek (r : ReverseBits) (count : Nat) : Nat :=
  if count ≤ r.left then Bits.peek ⟨r.buffer, r.left - count⟩ count
  else Bits.peek ⟨r.buffer, 0⟩ r.left <<< (count - r.left)

/-- Reads the next bits. -/
def take? (r : ReverseBits) (count : Nat) : Option (Nat × ReverseBits) :=
  if count ≤ r.left then some (r.peek count, { r with left := r.left - count }) else none

theorem peek_lt (r : ReverseBits) (count : Nat) : r.peek count < 1 <<< count := by
  rw [peek]
  split
  · exact Bits.peek_lt _ _
  · rename_i h
    have hlt := Bits.peek_lt ⟨r.buffer, 0⟩ r.left
    rw [Nat.shiftLeft_eq, Nat.one_mul] at hlt
    rw [Nat.shiftLeft_eq, Nat.shiftLeft_eq, Nat.one_mul]
    calc _ < 2 ^ r.left * 2 ^ (count - r.left) :=
          Nat.mul_lt_mul_of_pos_right hlt (Nat.two_pow_pos _)
      _ = 2 ^ count := by rw [← Nat.pow_add, Nat.add_sub_cancel' (Nat.le_of_not_le h)]

example : (do
    let r ← ofBuffer? (bufferOf [0b01100101, 0b00010110])
    let (a, r) ← r.take? 3
    let (b, _) ← r.take? 2
    return (a, b)) = some (0b011, 0b00) := by
  decide

end ReverseBits

end WebhookGuard.Compression.Zstd

import WebhookGuard.Bytes

/-
  Buffers. Compressed data is read by position, and what it unpacks to grows at its end by single
  bytes and by copies of what stands some way before the end.
-/
namespace WebhookGuard.Compression

/-- A buffer that holds a string of bytes. -/
def bufferOf (bytes : Bytes) : ByteArray := ⟨bytes.toArray⟩

/-- The byte at a position. Beyond the end there are zeros. -/
def byteAt (buffer : ByteArray) (i : Nat) : UInt8 :=
  if h : i < buffer.size then buffer[i] else 0

/-- The number that so many bytes at a position write, the lowest byte first. -/
def numberAt (buffer : ByteArray) (i : Nat) : Nat → Nat
  | 0 => 0
  | count + 1 => (byteAt buffer i).toNat + 256 * numberAt buffer (i + 1) count

/-- Appends a byte so many times. -/
def fill (buffer : ByteArray) (byte : UInt8) : Nat → ByteArray
  | 0 => buffer
  | count + 1 => fill (buffer.push byte) byte count

/-- Appends so many bytes of another buffer from a position on. -/
def appendFrom (buffer source : ByteArray) (i : Nat) : Nat → ByteArray
  | 0 => buffer
  | count + 1 => appendFrom (buffer.push (byteAt source i)) source (i + 1) count

/-- Appends so many bytes, each a copy of the one that stands `distance` before it. Before the
start there are zeros. -/
def copyBack (buffer : ByteArray) (distance : Nat) : Nat → ByteArray
  | 0 => buffer
  | count + 1 =>
    let byte := if buffer.size < distance then 0 else byteAt buffer (buffer.size - distance)
    copyBack (buffer.push byte) distance count

theorem size_fill (buffer : ByteArray) (byte : UInt8) (count : Nat) :
    (fill buffer byte count).size = buffer.size + count := by
  induction count generalizing buffer with
  | zero => rfl
  | succ count ih => rw [fill, ih, ByteArray.size_push]; omega

theorem size_appendFrom (buffer source : ByteArray) (i count : Nat) :
    (appendFrom buffer source i count).size = buffer.size + count := by
  induction count generalizing buffer i with
  | zero => rfl
  | succ count ih => rw [appendFrom, ih, ByteArray.size_push]; omega

theorem size_copyBack (buffer : ByteArray) (distance count : Nat) :
    (copyBack buffer distance count).size = buffer.size + count := by
  induction count generalizing buffer with
  | zero => rfl
  | succ count ih => rw [copyBack, ih, ByteArray.size_push]; omega

end WebhookGuard.Compression

import WebhookGuard.Compression.Buffer

/-
  Checksums of what data unpacks to: a remainder modulo a polynomial over the bits, and two running
  sums modulo a prime.
-/
namespace WebhookGuard.Compression

/-- One bit of the polynomial division, the lowest bit first. -/
def crcBit (r : UInt32) : UInt32 :=
  if r &&& 1 = 1 then (r >>> 1) ^^^ 0xEDB88320 else r >>> 1

/-- The remainder for each byte. -/
def crcTable : Array UInt32 :=
  ((List.range 256).map fun n =>
    (List.range 8).foldl (fun r _ => crcBit r) n.toUInt32).toArray

/-- The remainder after one byte more. -/
def crcByte (r : UInt32) (byte : UInt8) : UInt32 :=
  crcTable.getD ((r ^^^ byte.toUInt32) &&& 0xFF).toNat 0 ^^^ (r >>> 8)

/-- The cyclic redundancy check of a buffer, in 32 bits. -/
def crc32 (buffer : ByteArray) : UInt32 :=
  buffer.foldl crcByte 0xFFFFFFFF ^^^ 0xFFFFFFFF

/-- The two sums after one byte more. -/
def adlerByte (sums : Nat × Nat) (byte : UInt8) : Nat × Nat :=
  let low := (sums.1 + byte.toNat) % 65521
  (low, (sums.2 + low) % 65521)

/-- The sum of the bytes of a buffer and the sum of those sums, in 32 bits. -/
def adler32 (buffer : ByteArray) : Nat :=
  let (low, high) := buffer.foldl adlerByte (1, 0)
  high * 65536 + low

example : crc32 (bufferOf (utf8 "123456789")) = 0xCBF43926 := by decide +kernel

example : adler32 (bufferOf (utf8 "Wikipedia")) = 0x11E60398 := by decide +kernel

end WebhookGuard.Compression

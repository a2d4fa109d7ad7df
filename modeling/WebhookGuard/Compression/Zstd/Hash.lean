import WebhookGuard.Compression.Buffer

/-
  The hash of what a frame unpacks to. Four lanes take words of eight bytes in turn; they are mixed
  into one word, which then takes the bytes that are left.
-/
namespace WebhookGuard.Compression.Zstd.Hash

def prime1 : UInt64 := 0x9E3779B185EBCA87
def prime2 : UInt64 := 0xC2B2AE3D27D4EB4F
def prime3 : UInt64 := 0x165667B19E3779F9
def prime4 : UInt64 := 0x85EBCA77C2B2AE63
def prime5 : UInt64 := 0x27D4EB2F165667C5

/-- Turns a word to the left. -/
def turn (x : UInt64) (count : UInt64) : UInt64 := (x <<< count) ||| (x >>> (64 - count))

/-- A lane after a word more. -/
def round (lane word : UInt64) : UInt64 := turn (lane + word * prime2) 31 * prime1

/-- The word of so many bytes at a position. -/
def wordAt (buffer : ByteArray) (i count : Nat) : UInt64 := (numberAt buffer i count).toUInt64

/-- The four lanes. -/
structure Lanes where
  a : UInt64 := prime1 + prime2
  b : UInt64 := prime2
  c : UInt64 := 0
  d : UInt64 := 0 - prime1

namespace Lanes

/-- The lanes after so many times four words from a position on. -/
def take (l : Lanes) (buffer : ByteArray) (i : Nat) : Nat → Lanes
  | 0 => l
  | count + 1 =>
    take
      { a := round l.a (wordAt buffer i 8), b := round l.b (wordAt buffer (i + 8) 8)
        c := round l.c (wordAt buffer (i + 16) 8), d := round l.d (wordAt buffer (i + 24) 8) }
      buffer (i + 32) count

/-- The lanes in one word. -/
def mixed (l : Lanes) : UInt64 :=
  let sum := turn l.a 1 + turn l.b 7 + turn l.c 12 + turn l.d 18
  [l.a, l.b, l.c, l.d].foldl (fun h lane => (h ^^^ round 0 lane) * prime1 + prime4) sum

end Lanes

/-- Takes the last words of eight bytes from a position on. -/
def takeWords (h : UInt64) (buffer : ByteArray) (i : Nat) : Nat → UInt64
  | 0 => h
  | count + 1 =>
    takeWords (turn (h ^^^ round 0 (wordAt buffer i 8)) 27 * prime1 + prime4) buffer (i + 8) count

/-- Takes half a word at a position. -/
def takeHalf (h : UInt64) (buffer : ByteArray) (i : Nat) : UInt64 :=
  turn (h ^^^ (wordAt buffer i 4 * prime1)) 23 * prime2 + prime3

/-- Takes the last bytes from a position on. -/
def takeBytes (h : UInt64) (buffer : ByteArray) (i : Nat) : Nat → UInt64
  | 0 => h
  | count + 1 =>
    takeBytes (turn (h ^^^ (wordAt buffer i 1 * prime5)) 11 * prime1) buffer (i + 1) count

/-- Spreads each bit over the whole word. -/
def spread (h : UInt64) : UInt64 :=
  let h := (h ^^^ (h >>> 33)) * prime2
  let h := (h ^^^ (h >>> 29)) * prime3
  h ^^^ (h >>> 32)

/-- The hash of a buffer from a position on. -/
def hashFrom (buffer : ByteArray) (start : Nat) : UInt64 :=
  let size := buffer.size - start
  let rows := size / 32
  let h := if rows = 0 then prime5 else (Lanes.take {} buffer start rows).mixed
  let words := size % 32 / 8
  let i := start + 32 * rows
  let h := takeWords (h + size.toUInt64) buffer i words
  let i := i + 8 * words
  let h := if size % 8 < 4 then h else takeHalf h buffer i
  spread (takeBytes h buffer (start + size - size % 4) (size % 4))

example : hashFrom (bufferOf []) 0 = 0xEF46DB3751D8E999 := by decide +kernel

example : hashFrom (bufferOf (utf8 "abc")) 0 = 0x44BC2CF5AD770999 := by decide +kernel

end WebhookGuard.Compression.Zstd.Hash

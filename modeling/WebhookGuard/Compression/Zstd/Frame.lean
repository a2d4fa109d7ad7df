import WebhookGuard.Compression.Zstd.Fault
import WebhookGuard.Compression.Buffer

/-
  Frames. A frame begins with what is to be known of it: the window, the size of what it unpacks to
  and whether there is a checksum. There are also frames to be skipped, which have a size only.
-/
namespace WebhookGuard.Compression.Zstd

/-- What a frame begins with. -/
inductive Header where
  /-- The frame is to be skipped; so many bytes follow. -/
  | skippable (size : Nat)
  | data (window : Nat) (content : Option Nat) (hasDictionary hasChecksum : Bool)
deriving DecidableEq, Repr

/-- The blocks of a frame, by the number of two bits for each kind. -/
inductive BlockKind where
  /-- The bytes as they are. -/
  | plain
  /-- One byte, so many times. -/
  | repeated
  | compressed
  | reserved
deriving DecidableEq, Repr

/-- What a block begins with. The size is that of the block, or what it unpacks to where a byte is
repeated. -/
structure BlockHeader where
  isLast : Bool
  kind : BlockKind
  size : Nat
deriving DecidableEq, Repr

namespace BlockHeader

/-- How many bytes it takes. -/
def width : Nat := 3

/-- What a block at a position begins with. -/
def ofBuffer (buffer : ByteArray) (pos : Nat) : BlockHeader :=
  let n := numberAt buffer pos width
  let kind := match n / 2 % 4 with
    | 0 => .plain
    | 1 => .repeated
    | 2 => .compressed
    | _ => .reserved
  { isLast := n % 2 = 1, kind, size := n / 8 }

/-- How many bytes of the block follow. -/
def follow (h : BlockHeader) : Nat := if h.kind = .repeated then 1 else h.size

end BlockHeader

/-- The number that a frame begins with. -/
def magic : Nat := 0xFD2FB528

/-- The numbers that a frame to be skipped begins with are this one and the fifteen next. -/
def skippableMagic : Nat := 0x184D2A50

/-- Whether a frame can begin with so many bytes, at least one, of which a number is given. -/
def isPossible (n count : Nat) : Bool :=
  n == magic % (1 <<< (8 * count)) || n / 16 == skippableMagic % (1 <<< (8 * count)) / 16

/-- The greatest size of a block. -/
def maxBlock : Nat := 131072

/-- The greatest window there may be, as a power of two. -/
def maxWindowLog : Nat := 31

/-- How large a window may be when a frame does not come in one piece. -/
def windowLimit : Nat := 1 <<< 27 + 1

/-- The size of a window, as a byte tells it. -/
def windowSize (byte : Nat) : Nat :=
  let base := 1 <<< (byte / 8 + 10)
  base + base / 8 * (byte % 8)

namespace Header

/-- Reads what a frame at a position begins with, and where that ends. There is nothing when the
data ends in it. -/
def read (buffer : ByteArray) (pos : Nat) : Except FrameFault (Option (Header × Nat)) :=
  let left := buffer.size - pos
  if left < 5 then
    let count := min left 4
    if isPossible (numberAt buffer pos count) count then .ok none else .error .unknown
  else
    let n := numberAt buffer pos 4
    if n ≠ magic then
      if n / 16 ≠ skippableMagic / 16 then .error .unknown
      else if left < 8 then .ok none
      else .ok (some (.skippable (numberAt buffer (pos + 4) 4), pos + 8))
    else
      let flags := (byteAt buffer (pos + 4)).toNat
      let isSingle := flags / 32 % 2 = 1
      let windowWidth := if isSingle then 0 else 1
      let dictionaryWidth := [0, 1, 2, 4].getD (flags % 4) 0
      let contentWidth := [if isSingle then 1 else 0, 2, 4, 8].getD (flags / 64) 0
      let dictionaryPos := pos + 5 + windowWidth
      let contentPos := dictionaryPos + dictionaryWidth
      let stop := contentPos + contentWidth
      let written := numberAt buffer contentPos contentWidth
      let content := match contentWidth with
        | 0 => none
        | 2 => some (written + 256)
        | _ => some written
      let byte := (byteAt buffer (pos + 5)).toNat
      if buffer.size < stop then .ok none
      else if flags / 8 % 2 = 1 then .error .unsupported
      else if !isSingle && maxWindowLog < byte / 8 + 10 then .error .window
      else
        let window := if isSingle then content.getD 0 else windowSize byte
        let hasDictionary := numberAt buffer dictionaryPos dictionaryWidth ≠ 0
        .ok (some (.data window content hasDictionary (flags / 4 % 2 = 1), stop))

end Header

end WebhookGuard.Compression.Zstd

import WebhookGuard.Compression.Checksum
import WebhookGuard.Compression.Deflate
import WebhookGuard.Compression.Fault

/-
  Gzip and zlib: deflated data between a header and a checksum. The checksum of gzip has to be
  there; data of zlib may end before its checksum, or anywhere else.
-/
namespace WebhookGuard.Compression

namespace Gzip

/-- How many bytes begin every header. -/
def fixedSize : Nat := 10

/-- How many bytes the checksum and the size take. -/
def trailerSize : Nat := 8

/-- The greatest size of a name or comment. -/
def fieldLimit : Nat := 65535

/-- Whether a flag of the header is set. -/
def isSet (flags : UInt8) (bit : Nat) : Bool := flags.toNat.testBit bit

/-- What follows a text that a zero byte ends; nothing when the data ends in it. -/
def afterText (rest : Bytes) : Except Fault (Option Bytes) :=
  let size := (rest.takeWhile (· ≠ 0)).length
  if fieldLimit < size then .error .gzipField
  else .ok (if size < rest.length then some (rest.drop (size + 1)) else none)

/-- What follows the extra field. -/
def afterExtra : Bytes → Option Bytes
  | low :: high :: rest =>
    let size := low.toNat + 256 * high.toNat
    if size ≤ rest.length then some (rest.drop size) else none
  | _ => none

/-- What follows the checksum of a header whose other bytes are given. -/
def afterCheck (header : Bytes) : Bytes → Except Fault (Option Bytes)
  | low :: high :: rest =>
    if low.toNat + 256 * high.toNat = (crc32 (bufferOf header)).toNat % 65536 then .ok (some rest)
    else .error .gzipChecksum
  | _ => .ok none

/-- Goes on with what follows a part of the header, if that part is there. -/
def follow (rest : Option Bytes) (isThere : Bool) (next : Bytes → Except Fault (Option Bytes)) :
    Except Fault (Option Bytes) :=
  match rest with
  | none => .ok none
  | some rest => if isThere then next rest else .ok (some rest)

/-- What follows the header; nothing when the data ends in it. -/
def afterHeader (data : Bytes) : Except Fault (Option Bytes) :=
  match data with
  | id :: id' :: method :: flags :: _ =>
    if data.length < fixedSize then .ok none
    else if id ≠ 0x1F ∨ id' ≠ 0x8B ∨ method ≠ 8 ∨ 32 ≤ flags.toNat then .error .gzipHeader
    else do
      let rest ← follow (some (data.drop fixedSize)) (isSet flags 2) (.ok ∘ afterExtra)
      let rest ← follow rest (isSet flags 3) afterText
      let rest ← follow rest (isSet flags 4) afterText
      follow rest (isSet flags 1) fun rest =>
        afterCheck (data.take (data.length - rest.length)) rest
  | _ => .ok none

/-- Whether a trailer of eight bytes at a position fits what the data unpacks to. -/
def fits (buffer : ByteArray) (i : Nat) (out : ByteArray) : Bool :=
  numberAt buffer i 4 == (crc32 out).toNat && numberAt buffer (i + 4) 4 == out.size % 4294967296

/-- Unpacks data of gzip. -/
def unpack (data : Bytes) : Except Fault Unpacked := do
  match ← afterHeader data with
  | none => return { out := .empty, atEnd := some .gzipChecksum }
  | some rest =>
    let buffer := bufferOf rest
    let ⟨out, last, stop⟩ := Deflate.unpack buffer
    match stop with
    | some .malformed => .error .deflate
    | some .truncated => return { out, atEnd := some .gzipChecksum }
    | none =>
      let left := last.bits.bytesLeft
      if trailerSize < left then .error .trailing
      else if left = trailerSize && fits buffer (buffer.size - left) out then return { out }
      else return { out, atEnd := some .gzipChecksum }

end Gzip

namespace Zlib

/-- How many bytes the checksum takes. -/
def trailerSize : Nat := 4

/-- Whether the two bytes of a header are right: the method is the only one there is, the window no
larger than 32 KiB, no dictionary is asked for, and the two add up. -/
def isHeader (method flags : UInt8) : Bool :=
  method &&& 0x0F == 8 && method >>> 4 ≤ 7 && flags &&& 0x20 == 0 &&
    (256 * method.toNat + flags.toNat) % 31 == 0

/-- The checksum at a position, the highest byte first. -/
def checksumAt (buffer : ByteArray) (i : Nat) : Nat :=
  (List.range trailerSize).foldl (fun n k => 256 * n + (byteAt buffer (i + k)).toNat) 0

/-- Unpacks data of zlib. -/
def unpack (data : Bytes) : Except Fault Unpacked :=
  match data with
  | method :: flags :: rest =>
    if !isHeader method flags then .error .deflate
    else
      let buffer := bufferOf rest
      let ⟨out, last, stop⟩ := Deflate.unpack buffer
      match stop with
      | some .malformed => .error .deflate
      | some .truncated => .ok { out }
      | none =>
        let left := last.bits.bytesLeft
        if left < trailerSize then .ok { out }
        else if checksumAt buffer (buffer.size - left) ≠ adler32 out then .error .deflate
        else if trailerSize < left then .error .trailing
        else .ok { out }
  | _ => .ok { out := .empty }

end Zlib

end WebhookGuard.Compression

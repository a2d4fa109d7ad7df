import WebhookGuard.Compression.Fault
import WebhookGuard.Compression.Zstd.Block
import WebhookGuard.Compression.Zstd.Frame
import WebhookGuard.Compression.Zstd.Hash

/-
  Data of Zstandard: frames one after the other. Data may end anywhere, also in a frame; it unpacks
  to the blocks that are there until then. A small frame that is there to its end is unpacked in
  one piece and needs no room for its window.
-/
namespace WebhookGuard.Compression.Zstd

/-- How a frame is unpacked. -/
structure Frame where
  window : Nat
  /-- The size that what it unpacks to has to have. -/
  content : Option Nat
  hasChecksum : Bool
  /-- Whether it is unpacked in one piece. -/
  isWhole : Bool
  /-- Where what it unpacks to begins. -/
  start : Nat

namespace Frame

/-- The greatest size of what is unpacked in one piece. -/
def pieceLimit : Nat := 32768

/-- The least window that there is room for. -/
def leastWindow : Nat := 1024

/-- The greatest size of a block. -/
def blockLimit (f : Frame) : Nat := min f.window maxBlock

/-- How much room there is for what the frame unpacks to. -/
def room (f : Frame) : Nat :=
  let needed := max f.window leastWindow + 2 * f.blockLimit + 2 * Limits.gap
  if f.isWhole then pieceLimit else min (f.content.getD needed) needed

/-- How much of the room is used after so many bytes more than before. Where the frame may come to
more than the room, it is used from the start again, once there may be too little left of it for a
block. -/
def use (f : Frame) (used count : Nat) : Nat :=
  let used := used + count
  let mayNotFit := !f.isWhole && f.content.all (f.room < ·)
  if mayNotFit && f.room < used + f.blockLimit then 0 else used

/-- Whether what the frame unpacks to has another size than it has to have. -/
def isWrongSize (f : Frame) (out : ByteArray) : Bool :=
  f.content.any (· ≠ out.size - f.start)

/-- Adds a block, which stands at a position. So much of the room is used. -/
def addBlock (f : Frame) (carried : Carried) (h : BlockHeader) (buffer : ByteArray) (pos used : Nat)
    (out : ByteArray) : Except FrameFault (Carried × ByteArray) :=
  let left := f.room - used
  match h.kind with
  | .plain =>
    if left < h.size then .error .room else .ok (carried, appendFrom out buffer pos h.size)
  | .repeated =>
    if left < h.size then .error .room else .ok (carried, fill out (byteAt buffer pos) h.size)
  | .compressed =>
    let block := buffer.extract pos (pos + h.size)
    unpackBlock ⟨f.blockLimit, left, f.isWhole⟩ carried block out f.start
  | .reserved => .error .corrupted

/-- Checks the end of a frame, and tells where the next one begins, if it is there. -/
def finish (f : Frame) (buffer : ByteArray) (pos : Nat) (out : ByteArray) :
    Except FrameFault (Option Nat) :=
  if !f.hasChecksum then .ok (some pos)
  else if buffer.size < pos + 4 then .ok none
  else if numberAt buffer pos 4 ≠ (Hash.hashFrom out f.start).toNat % 4294967296 then .error .checksum
  else .ok (some (pos + 4))

/-- Unpacks the blocks from a position on, and tells where the next frame begins, if it is there.
Each block takes some bytes, so their number is a limit to that of the blocks. -/
def addBlocks (f : Frame) (buffer : ByteArray) :
    Nat → Carried → Nat → Nat → ByteArray → Except FrameFault (ByteArray × Option Nat)
  | 0, _, _, _, out => .ok (out, none)
  | fuel + 1, carried, pos, used, out =>
    let h := BlockHeader.ofBuffer buffer pos
    let pos := pos + BlockHeader.width
    if buffer.size < pos then .ok (out, none)
    else if h.kind = .reserved then .error .corrupted
    else if !f.isWhole && f.blockLimit < h.follow then .error .corrupted
    else if !f.isWhole && h.follow = 0 then
      if h.isLast then (f.finish buffer pos out).map fun next => (out, next)
      else f.addBlocks buffer fuel carried pos used out
    else if buffer.size < pos + h.follow && h.kind ≠ .plain then .ok (out, none)
    else
      let isThere := pos + h.follow ≤ buffer.size
      let h := if isThere then h else { h with size := buffer.size - pos }
      let before := out.size
      match f.addBlock carried h buffer pos used out with
      | .error fault => .error fault
      | .ok (carried, out) =>
        let count := out.size - before
        let pos := pos + h.follow
        if !isThere then .ok (out, none)
        else if !f.isWhole && f.blockLimit < count then .error .corrupted
        else if !h.isLast then f.addBlocks buffer fuel carried pos (f.use used count) out
        else if f.isWrongSize out then .error .corrupted
        else (f.finish buffer pos out).map fun next => (out, next)

end Frame

/-- Where the blocks from a position on end, if they are all there. -/
def blocksEnd? (buffer : ByteArray) : Nat → Nat → Option Nat
  | 0, _ => none
  | fuel + 1, pos =>
    let h := BlockHeader.ofBuffer buffer pos
    let next := pos + BlockHeader.width + h.follow
    if buffer.size < next ∨ h.kind = .reserved then none
    else if h.isLast then some next
    else blocksEnd? buffer fuel next

/-- The frame with a header. -/
def frameOf (buffer : ByteArray) (pos window : Nat) (content : Option Nat)
    (hasChecksum : Bool) (start : Nat) : Frame :=
  let isThere := (blocksEnd? buffer buffer.size pos).any fun stop =>
    stop + (if hasChecksum then 4 else 0) ≤ buffer.size
  { window, content, hasChecksum, start
    isWhole := content.any (· ≤ Frame.pieceLimit) && isThere }

/-- Unpacks the frames from a position on. -/
def addFrames (buffer : ByteArray) :
    Nat → Nat → ByteArray → Except FrameFault ByteArray
  | 0, _, out => .ok out
  | fuel + 1, pos, out =>
    if buffer.size ≤ pos then .ok out
    else
      match Header.read buffer pos with
      | .error fault => .error fault
      | .ok none => .ok out
      | .ok (some (.skippable size, pos)) => addFrames buffer fuel (pos + size) out
      | .ok (some (.data window content hasDictionary hasChecksum, pos)) =>
        let f := frameOf buffer pos window content hasChecksum out.size
        if hasDictionary then .error .dictionary
        else if !f.isWhole && windowLimit < window then .error .window
        else
          match f.addBlocks buffer buffer.size {} pos 0 out with
          | .error fault => .error fault
          | .ok (out, none) => .ok out
          | .ok (out, some pos) => addFrames buffer fuel pos out

/-- Unpacks data of Zstandard. -/
def unpack (data : Bytes) : Except Fault Unpacked :=
  let buffer := bufferOf data
  match addFrames buffer (buffer.size + 1) 0 .empty with
  | .ok out => .ok { out }
  | .error fault => .error (.zstd fault)

end WebhookGuard.Compression.Zstd

import WebhookGuard.Compression.Zstd.Fault
import WebhookGuard.Compression.Zstd.Tree

/-
  Literals: the bytes that a block does not copy. They are written as they are, as one byte that is
  repeated, or in a tree, which may be the last one again.
-/
namespace WebhookGuard.Compression.Zstd

/-- How much a block may unpack to. -/
structure Limits where
  /-- The greatest size of a block. -/
  block : Nat
  /-- How many bytes there is room for. -/
  room : Nat
  /-- Whether the literals wait in the same room, after the block. -/
  isShared : Bool

namespace Limits

/-- How many bytes lie between the block and what stands after it. -/
def gap : Nat := 32

/-- How many bytes there is room for when there are so many literals. -/
def roomBeside (l : Limits) (literals : Nat) : Nat :=
  if l.isShared && l.block + literals + 2 * gap < l.room then l.block + gap else l.room

end Limits

/-- Literals, how many bytes they were written in, and the last tree after them. -/
structure Literals where
  bytes : ByteArray
  size : Nat
  tree : Option Tree

namespace Literals

/-- The least number of literals in four rows of bits. -/
def leastInRows : Nat := 6

/-- The sizes of literals and how many bytes these sizes take, where there is no tree. -/
def plainSizes (buffer : ByteArray) : Nat × Nat :=
  let n := numberAt buffer 0 3
  match n / 4 % 4 with
  | 1 => (n % 65536 / 16, 2)
  | 3 => (n / 16, 3)
  | _ => (n % 256 / 8, 1)

/-- The sizes of literals in a tree: how many there are, how many bytes they take, and how many
bytes these sizes take. -/
def codedSizes (buffer : ByteArray) : Nat × Nat × Nat :=
  let n := numberAt buffer 0 5
  match n / 4 % 4 with
  | 2 => (n / 16 % 16384, n / 262144 % 16384, 4)
  | 3 => (n / 16 % 262144, n / 4194304, 5)
  | _ => (n / 16 % 1024, n / 16384 % 1024, 3)

/-- Checks a number of literals. -/
def check (limits : Limits) (count : Nat) : Except FrameFault Unit :=
  if limits.block < count then .error .corrupted
  else if limits.room < count then .error .room
  else .ok ()

/-- A part of a buffer; the data is corrupted if there is no such part. -/
def slice (buffer : ByteArray) (start stop : Nat) : Except FrameFault ByteArray :=
  if stop ≤ buffer.size then .ok (buffer.extract start stop) else .error .corrupted

/-- What there is, or else the data is corrupted. -/
def orCorrupted (a? : Option α) : Except FrameFault α :=
  match a? with
  | some a => .ok a
  | none => .error .corrupted

/-- Reads literals in a tree. -/
def readCoded (limits : Limits) (tree : Option Tree) (isNew : Bool) (buffer : ByteArray) :
    Except FrameFault Literals := do
  if !isNew && tree.isNone then .error .noCode
  if buffer.size < 5 then .error .corrupted
  let (count, size, start) := codedSizes buffer
  let isRow := (byteAt buffer 0).toNat / 4 % 4 = 0
  if limits.block < count then .error .corrupted
  if !isRow && count < leastInRows then .error .literals
  let written ← slice buffer start (start + size)
  check limits count
  let (tree, skip) ← orCorrupted
    (if isNew then Tree.read? written else tree.map fun tree => (tree, 0))
  let written := written.extract skip written.size
  let bytes ← orCorrupted
    (if isRow then tree.decodeRow? count written .empty else tree.decodeRows? count written)
  return { bytes, size := start + size, tree := some tree }

/-- Reads literals. -/
def read (limits : Limits) (tree : Option Tree) (buffer : ByteArray) :
    Except FrameFault Literals := do
  if buffer.size < 2 then .error .corrupted
  match (byteAt buffer 0).toNat % 4 with
  | 0 =>
    let (count, start) := plainSizes buffer
    if buffer.size < start then .error .corrupted
    check limits count
    let bytes ← slice buffer start (start + count)
    return { bytes, size := start + count, tree }
  | 1 =>
    let (count, start) := plainSizes buffer
    if buffer.size < start + 1 then .error .corrupted
    check limits count
    return { bytes := fill .empty (byteAt buffer start) count, size := start + 1, tree }
  | 2 => readCoded limits tree true buffer
  | _ => readCoded limits tree false buffer

end Literals

end WebhookGuard.Compression.Zstd

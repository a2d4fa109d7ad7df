import WebhookGuard.Compression.Zstd.Entropy

/-
  Trees: prefix codes for bytes. A byte has a weight; the greater it is, the shorter is the code.
  The weights are written as they are or in an entropy code, but for the last one, which follows
  from the others: all together take up every string of bits.
-/
namespace WebhookGuard.Compression.Zstd

/-- A prefix code for bytes. -/
structure Tree where
  /-- The greatest length of a code. -/
  depth : Nat
  /-- The byte that each string of that length begins with, and the length of its code. -/
  leaves : Array (UInt8 × Nat)

namespace Tree

/-- The greatest depth there is. -/
def maxDepth : Nat := 12

/-- How many of the strings of the greatest length begin with the code of a byte. -/
def share (weight : Nat) : Nat := if weight = 0 then 0 else 1 <<< (weight - 1)

/-- The last weight, for the others: what they leave up to the next power of two is a power of two
itself. -/
def lastWeight? (weights : List Nat) : Option Nat :=
  let total := (weights.map share).foldl (· + ·) 0
  let rest := 2 <<< total.log2 - total
  if total = 0 ∨ rest ≠ 1 <<< rest.log2 then none else some (rest.log2 + 1)

/-- The tree for all weights, in a given depth. -/
def ofWeights (weights : List Nat) (depth : Nat) : Tree :=
  let bytesOf (weight : Nat) : List (UInt8 × Nat) :=
    weights.zipIdx.flatMap fun (w, byte) =>
      if w = weight then List.replicate (share weight) (byte.toUInt8, depth + 1 - weight) else []
  ⟨depth, ((List.range depth).flatMap fun i => bytesOf (i + 1)).toArray⟩

/-- The tree for the weights but the last. The two bytes with the longest codes differ in the last
bit, and there are such. -/
def ofWritten? (weights : List Nat) : Option Tree := do
  if weights.any (maxDepth < ·) then none
  let last ← lastWeight? weights
  let depth := ((weights.map share).foldl (· + ·) 0).log2 + 1
  let all := weights ++ [last]
  let longest := all.count 1
  if maxDepth < depth ∨ longest < 2 ∨ longest % 2 = 1 then none else some (ofWeights all depth)

/-- Weights in turn from two states, as long as there are bits for the next state of either. -/
def readWeights (t : Table) : Nat → Cell → Cell → ReverseBits → Option (List Nat)
  | 0, _, _, _ => none
  | fuel + 1, one, other, r =>
    match t.next? one r with
    | none => some [one.symbol, other.symbol]
    | some (next, r) => (readWeights t fuel other next r).map (one.symbol :: ·)

/-- The greatest number of weights that are written. -/
def maxWritten : Nat := 255

/-- Weights in an entropy code. -/
def codedWeights? (buffer : ByteArray) : Option (List Nat) := do
  let (shares, size) ← Shares.read? buffer 256 6
  let r ← ReverseBits.ofBuffer? (buffer.extract size buffer.size)
  let (one, r) ← shares.table.start? r
  let (other, r) ← shares.table.start? r
  readWeights shares.table (maxWritten - 1) one other r

/-- So many weights, of four bits each. -/
def plainWeights (buffer : ByteArray) (count : Nat) : List Nat :=
  (List.range count).map fun i =>
    let byte := (byteAt buffer (i / 2)).toNat
    if i % 2 = 0 then byte / 16 else byte % 16

/-- Reads a tree, and how many bytes it takes. -/
def read? (buffer : ByteArray) : Option (Tree × Nat) := do
  if buffer.size = 0 then none
  let first := (byteAt buffer 0).toNat
  let size := if first < 128 then first else (first - 126) / 2
  if buffer.size < 1 + size then none
  let part := buffer.extract 1 (1 + size)
  let weights ← if first < 128 then codedWeights? part else some (plainWeights part (first - 127))
  let tree ← ofWritten? weights
  return (tree, 1 + size)

/-- Reads so many bytes, and tells how many bits are left after them. -/
def decode? (t : Tree) : Nat → ReverseBits → ByteArray → Option (ByteArray × Nat)
  | 0, r, out => some (out, r.left)
  | count + 1, r, out =>
    let (byte, length) := t.leaves.getD (r.peek t.depth) (0, 0)
    if r.left < length then none
    else t.decode? count { r with left := r.left - length } (out.push byte)

/-- Reads so many bytes from a row of bits, and nothing is left. -/
def decodeRow? (t : Tree) (count : Nat) (buffer out : ByteArray) : Option ByteArray := do
  let r ← ReverseBits.ofBuffer? buffer
  let (out, left) ← t.decode? count r out
  if left = 0 then some out else none

/-- Reads so many bytes from a row of bits that stands between two positions. It may leave bits,
and it may go on with up to eight bytes of what stands before it. -/
def decodeLongRow? (t : Tree) (count : Nat) (buffer : ByteArray) (start stop : Nat)
    (out : ByteArray) : Option ByteArray := do
  let row := buffer.extract 0 stop
  let r := (ReverseBits.ofBuffer? row).getD ⟨row, 8 * stop⟩
  let (out, left) ← t.decode? count r out
  if 8 * start ≤ left + 64 then some out else none

/-- Below this depth the reader of four rows does not look how each of them ends, if they have eight
bytes or more. -/
def longRowDepth : Nat := 11

/-- Reads so many bytes from four rows of bits, which begin with the sizes of the first three. Each
row has as many bytes but the last one, which may have fewer. -/
def decodeRows? (t : Tree) (count : Nat) (buffer : ByteArray) : Option ByteArray := do
  if buffer.size < 10 then none
  let sizes := [numberAt buffer 0 2, numberAt buffer 2 2, numberAt buffer 4 2]
  let last := sizes.foldl (· + ·) 6
  if buffer.size < last then none
  let sizes := sizes ++ [buffer.size - last]
  let isLong := t.depth ≤ longRowDepth && sizes.all (8 ≤ ·)
  let part := (count + 3) / 4
  let (out, _, _) ← sizes.foldlM (fun (out, start, left) size => do
    let stop := start + size
    let out ← if isLong then t.decodeLongRow? (min part left) buffer start stop out
      else t.decodeRow? (min part left) (buffer.extract start stop) out
    return (out, stop, left - part)) (ByteArray.empty, 6, count)
  return out

end Tree

end WebhookGuard.Compression.Zstd

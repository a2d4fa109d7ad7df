import WebhookGuard.Compression.Code
import WebhookGuard.Compression.Piece

/-
  Deflated data. It comes in blocks. A block holds its bytes as they are, or it is a row of symbols
  in two prefix codes: one for bytes, the lengths of copies and the end of the block, one for how
  far back a copy begins. The codes are fixed, or the block begins with their lengths.
-/
namespace WebhookGuard.Compression.Deflate

/-- Where in the data the reader is. -/
inductive Phase where
  /-- Before a block. -/
  | header
  /-- In a block with so many more bytes as they are. -/
  | stored (left : Nat)
  /-- In a block of symbols. -/
  | coded (literals distances : Code)
  /-- After the last block. -/
  | finished

/-- How far the data has been read. -/
structure Position where
  bits : Bits
  phase : Phase := .header
  /-- Whether the block is the last one. -/
  isLast : Bool := false

/-- The lengths of the fixed code for bytes and copies. -/
def fixedLiteralLengths : List Nat :=
  List.replicate 144 8 ++ List.replicate 112 9 ++ List.replicate 24 7 ++ List.replicate 8 8

/-- The fixed code for bytes and copies. -/
def fixedLiterals : Code := .ofLengths fixedLiteralLengths

/-- The fixed code for distances. -/
def fixedDistances : Code := .ofLengths (List.replicate 32 5)

/-- The shortest copy of each length symbol and how many bits are added to it. -/
def copyLengths : List (Nat × Nat) :=
  [ (3, 0), (4, 0), (5, 0), (6, 0), (7, 0), (8, 0), (9, 0), (10, 0), (11, 1), (13, 1), (15, 1),
    (17, 1), (19, 2), (23, 2), (27, 2), (31, 2), (35, 3), (43, 3), (51, 3), (59, 3), (67, 4),
    (83, 4), (99, 4), (115, 4), (131, 5), (163, 5), (195, 5), (227, 5), (258, 0) ]

/-- The least distance of each distance symbol and how many bits are added to it. -/
def copyDistances : List (Nat × Nat) :=
  [ (1, 0), (2, 0), (3, 0), (4, 0), (5, 1), (7, 1), (9, 2), (13, 2), (17, 3), (25, 3), (33, 4),
    (49, 4), (65, 5), (97, 5), (129, 6), (193, 6), (257, 7), (385, 7), (513, 8), (769, 8),
    (1025, 9), (1537, 9), (2049, 10), (3073, 10), (4097, 11), (6145, 11), (8193, 12),
    (12289, 12), (16385, 13), (24577, 13) ]

/-- The order in which the lengths of the code for lengths are written. -/
def lengthOrder : List Nat :=
  [16, 17, 18, 0, 8, 7, 9, 6, 10, 5, 11, 4, 12, 3, 13, 2, 14, 1, 15]

/-- The code for lengths, from the lengths written for it. -/
def lengthCode (written : List Nat) : Code :=
  .ofLengths ((List.range 19).map fun symbol => ((lengthOrder.zip written).lookup symbol).getD 0)

/-- Reads code lengths until there are `total`; those read so far are in reverse order. -/
def readLengths (c : Code) (total : Nat) : Nat → List Nat → Bits → Except Stop (List Nat × Bits)
  | 0, _, _ => .error .malformed
  | fuel + 1, read, b =>
    if read.length = total then .ok (read.reverse, b)
    else if total < read.length then .error .malformed
    else do
      let (symbol, b) ← c.read b
      if symbol < 16 then readLengths c total fuel (symbol :: read) b
      else if symbol = 16 then
        match read with
        | [] => .error .malformed
        | last :: _ =>
          let (n, b) ← b.take 2
          readLengths c total fuel (List.replicate (3 + n) last ++ read) b
      else
        let (n, b) ← if symbol = 17 then b.take 3 else b.take 7
        let least := if symbol = 17 then 3 else 11
        readLengths c total fuel (List.replicate (least + n) 0 ++ read) b

/-- Whether codes can be used: every string of bits begins with one, or there is at most one. -/
def isUsable (c : Code) : Bool := c.isComplete || !c.isProper

/-- Reads the codes at the start of a block. -/
def readCodes (b : Bits) : Except Stop (Phase × Bits) := do
  let (literals, b) ← b.take 5
  let (distances, b) ← b.take 5
  let (lengths, b) ← b.take 4
  if 29 < literals ∨ 29 < distances then .error .malformed
  let (written, b) ← b.takeMany 3 (lengths + 4)
  let code := lengthCode written
  if !code.isComplete then .error .malformed
  let total := literals + 257 + (distances + 1)
  let (all, b) ← readLengths code total (total + 1) [] b
  let forLiterals := Code.ofLengths (all.take (literals + 257))
  let forDistances := Code.ofLengths (all.drop (literals + 257))
  if !isUsable forLiterals ∨ !isUsable forDistances then .error .malformed
  return (.coded forLiterals forDistances, b)

namespace Position

/-- After the end of a block. -/
def endBlock (p : Position) : Position :=
  { p with phase := if p.isLast then .finished else .header }

/-- Reads the start of a block. -/
def readHeader (p : Position) : Except Stop Position := do
  let (last, b) ← p.bits.take 1
  let (type, b) ← b.take 2
  let p := { p with isLast := last = 1 }
  match type with
  | 0 =>
    let (length, b) ← b.align.take 16
    let (check, b) ← b.take 16
    if length + check ≠ 65535 then .error .malformed
    if length = 0 then return { p with bits := b }.endBlock
    return { p with bits := b, phase := .stored length }
  | 1 => return { p with bits := b, phase := .coded fixedLiterals fixedDistances }
  | 2 =>
    let (phase, b) ← readCodes b
    return { p with bits := b, phase }
  | _ => .error .malformed

/-- Reads a symbol of a block, and the copy that it may begin. -/
def readSymbol (p : Position) (literals distances : Code) : Except Stop (Position × Piece) := do
  let (symbol, b) ← literals.read p.bits
  if symbol < 256 then return ({ p with bits := b }, .byte symbol.toUInt8)
  else if symbol = 256 then return ({ p with bits := b }.endBlock, .nothing)
  else
    let (length, b) ← readNumber copyLengths (symbol - 257) b
    let (symbol, b) ← distances.read b
    let (distance, b) ← readNumber copyDistances symbol b
    return ({ p with bits := b }, .copy distance length)

/-- Reads the start of a block, a byte or a symbol. -/
def next (p : Position) : Except Stop (Position × Piece) :=
  match p.phase with
  | .header => p.readHeader.map fun p => (p, .nothing)
  | .stored 0 | .finished => .ok (p.endBlock, .nothing)
  | .stored (left + 1) => do
    let (byte, b) ← p.bits.take 8
    let p := { p with bits := b, phase := .stored left }
    return (if left = 0 then p.endBlock else p, .byte byte.toUInt8)
  | .coded literals distances => p.readSymbol literals distances

end Position

/-- What unpacking comes to. -/
structure Unpacked where
  out : ByteArray
  last : Position
  /-- Why it came no further, unless it has finished. -/
  stop : Option Stop

/-- Unpacks in so many steps. -/
def run : Nat → Position → ByteArray → Unpacked
  | 0, p, out => ⟨out, p, none⟩
  | fuel + 1, p, out =>
    match p.phase with
    | .finished => ⟨out, p, none⟩
    | _ =>
      match p.next with
      | .ok (p, piece) => run fuel p (piece.addTo out)
      | .error stop => ⟨out, p, some stop⟩

/-- Unpacks deflated data from the start of a buffer. Each step reads at least one bit. -/
def unpack (buffer : ByteArray) : Unpacked :=
  run (8 * buffer.size + 1) { bits := { buffer } } .empty

end WebhookGuard.Compression.Deflate

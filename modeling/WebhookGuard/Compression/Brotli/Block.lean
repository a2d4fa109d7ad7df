import WebhookGuard.Compression.Brotli.PrefixCode

/-
  Blocks. Within a meta-block the symbols of each kind come in blocks, each of some type. When a
  block ends, the type and the length of the next one are written between the symbols.
-/
namespace WebhookGuard.Compression.Brotli

/-- Where a reader is in the blocks of one kind of symbols. -/
structure Blocks where
  /-- How many types of blocks there are. -/
  types : Nat := 1
  typeCode : PrefixCode := .only 0
  lengthCode : PrefixCode := .only 0
  /-- The type of the block. -/
  type : Nat := 0
  /-- The type of the block before. -/
  before : Nat := 1
  /-- How many symbols of the block are left. It has no end where there is one type only. -/
  left : Nat := 0

namespace Blocks

/-- The least length of a block for each symbol and how many bits are added to it. -/
def lengths : List (Nat × Nat) :=
  [ (1, 2), (5, 2), (9, 2), (13, 2), (17, 3), (25, 3), (33, 3), (41, 3), (49, 4), (65, 4), (81, 4),
    (97, 4), (113, 5), (145, 5), (177, 5), (209, 5), (241, 6), (305, 6), (369, 7), (497, 8),
    (753, 9), (1265, 10), (2289, 11), (4337, 12), (8433, 13), (16625, 24) ]

/-- Reads the length of a block. -/
def readLength (blocks : Blocks) (b : Bits) : Except Stop (Blocks × Bits) := do
  let (symbol, b) ← blocks.lengthCode.read b
  let (left, b) ← readNumber lengths symbol b
  return ({ blocks with left }, b)

/-- Reads what there is to know of the blocks at the start of a meta-block. -/
def read (b : Bits) : Except Stop (Blocks × Bits) := do
  let (more, b) ← readSmall b
  if more = 0 then return ({}, b)
  let (typeCode, b) ← PrefixCode.readCode { size := more + 3 } b
  let (lengthCode, b) ← PrefixCode.readCode { size := lengths.length } b
  readLength { types := more + 1, typeCode, lengthCode } b

/-- The blocks after one of a type: the first two symbols stand for the type before this one and
for the next type in order, the others for each type. -/
def turn (blocks : Blocks) (symbol : Nat) : Blocks :=
  let type := match symbol with
    | 0 => blocks.before
    | 1 => blocks.type + 1
    | n + 2 => n
  { blocks with
    type := if blocks.types ≤ type then type - blocks.types else type
    before := blocks.type }

/-- Reads the start of the next block, if one has ended, and counts one symbol. -/
def next (blocks : Blocks) (b : Bits) : Except Stop (Blocks × Bits) := do
  if blocks.types = 1 then return (blocks, b)
  let (blocks, b) ← if blocks.left = 0 then do
      let (symbol, b) ← blocks.typeCode.read b
      readLength (blocks.turn symbol) b
    else .ok (blocks, b)
  return ({ blocks with left := blocks.left - 1 }, b)

end Blocks

end WebhookGuard.Compression.Brotli

import WebhookGuard.Compression.Zstd.Literals

/-
  Sequences. A sequence takes some literals and then copies bytes from some way before. The numbers
  of these come in three entropy codes, whose states take turns in one row of bits.
-/
namespace WebhookGuard.Compression.Zstd

/-- The kinds of numbers in a sequence. -/
inductive Part where
  | literals
  | offset
  | copy
deriving DecidableEq, Repr

namespace Part

/-- The least number of literals for each symbol and how many bits are added to it. -/
def literalCounts : List (Nat × Nat) :=
  (List.range 16).map (·, 0) ++
  [ (16, 1), (18, 1), (20, 1), (22, 1), (24, 2), (28, 2), (32, 3), (40, 3), (48, 4), (64, 6),
    (128, 7), (256, 8), (512, 9), (1024, 10), (2048, 11), (4096, 12), (8192, 13), (16384, 14),
    (32768, 15), (65536, 16) ]

/-- The least length of a copy for each symbol and how many bits are added to it. -/
def copyLengths : List (Nat × Nat) :=
  (List.range 32).map (fun n => (n + 3, 0)) ++
  [ (35, 1), (37, 1), (39, 1), (41, 1), (43, 2), (47, 2), (51, 3), (59, 3), (67, 4), (83, 4),
    (99, 5), (131, 7), (259, 8), (515, 9), (1027, 10), (2051, 11), (4099, 12), (8195, 13),
    (16387, 14), (32771, 15), (65539, 16) ]

/-- The least number for each symbol and how many bits are added to it. -/
def ranges : Part → Array (Nat × Nat)
  | literals => literalCounts.toArray
  | offset => ((List.range 32).map fun n => (1 <<< n, n)).toArray
  | copy => copyLengths.toArray

/-- How many states a code has at most, as a power of two. -/
def maxLog : Part → Nat
  | offset => 8
  | _ => 9

/-- The code that needs not be written. -/
def basicShares : Part → Shares
  | literals => ⟨6, ([4, 3] ++ List.replicate 11 2 ++ [1, 1, 1] ++ List.replicate 9 2 ++
      [3, 2, 1, 1, 1, 1, 1]).map some ++ List.replicate 4 none⟩
  | offset => ⟨5, (List.replicate 6 1 ++ [2, 2, 2] ++ List.replicate 15 1).map some ++
      List.replicate 5 none⟩
  | copy => ⟨6, ([1, 4, 3] ++ List.replicate 6 2 ++ List.replicate 37 1).map some ++
      List.replicate 7 none⟩

example : [literals, offset, copy].all fun part =>
    ((part.basicShares.counts.map (·.getD 1)).sum == 1 <<< part.basicShares.log) := by
  decide

end Part

/-- The three codes of the sequences in a block. -/
structure Tables where
  literals : Table
  offset : Table
  copy : Table

/-- How a code is written. -/
inductive TableForm where
  | basic
  | single
  | shares
  /-- It is the last one again. -/
  | again
deriving DecidableEq, Repr

/-- The form for a number of two bits. -/
def TableForm.ofBits : Nat → TableForm
  | 0 => basic
  | 1 => single
  | 2 => shares
  | _ => again

/-- Reads a code, and how many bytes it takes. -/
def readTable (part : Part) (form : TableForm) (last : Option Table) (buffer : ByteArray) :
    Except FrameFault (Table × Nat) :=
  Literals.orCorrupted <|
    match form with
    | .basic => some (part.basicShares.table, 0)
    | .single =>
      let symbol := (byteAt buffer 0).toNat
      if buffer.size = 0 ∨ part.ranges.size ≤ symbol then none else some (.only symbol, 1)
    | .shares => do
      let (shares, size) ← Shares.read? buffer part.ranges.size part.maxLog
      return (shares.table, size)
    | .again => last.map fun table => (table, 0)

/-- Reads the three codes, and how many bytes they take. -/
def readTables (last : Option Tables) (buffer : ByteArray) :
    Except FrameFault (Tables × Nat) := do
  let forms := (byteAt buffer 0).toNat
  if buffer.size = 0 then .error .size
  if forms % 4 ≠ 0 then .error .corrupted
  let form (shift : Nat) := TableForm.ofBits (forms >>> shift % 4)
  let rest (size : Nat) := buffer.extract size buffer.size
  let (literals, n) ← readTable .literals (form 6) (last.map Tables.literals) (rest 1)
  let (offset, m) ← readTable .offset (form 4) (last.map Tables.offset) (rest (1 + n))
  let (copy, k) ← readTable .copy (form 2) (last.map Tables.copy) (rest (1 + n + m))
  return ({ literals, offset, copy }, 1 + n + m + k)

/-- Reads how many sequences there are, and how many bytes that takes. -/
def readCount (buffer : ByteArray) : Except FrameFault (Nat × Nat) :=
  let first := (byteAt buffer 0).toNat
  let size := if first < 128 then 1 else if first < 255 then 2 else 3
  if buffer.size < size then .error .size
  else if first < 128 then .ok (first, 1)
  else if first < 255 then .ok ((first - 128) * 256 + (byteAt buffer 1).toNat, 2)
  else .ok (0x7F00 + numberAt buffer 1 2, 3)

/-- The last three offsets, the last one first. -/
structure Offsets where
  first : Nat := 1
  second : Nat := 4
  third : Nat := 8
deriving DecidableEq, Repr

/-- The offset for a number, and the last offsets after it. The first three numbers stand for the
last offsets; after no literals, the last one being useless, they stand for the two others and for
the one before the last. -/
def Offsets.use (o : Offsets) (number : Nat) (hasLiterals : Bool) : Nat × Offsets :=
  match if hasLiterals then number else number + 1, decide (3 < number) with
  | _, true => (number - 3, ⟨number - 3, o.first, o.second⟩)
  | 1, _ => (o.first, o)
  | 2, _ => (o.second, ⟨o.second, o.first, o.third⟩)
  | 3, _ => (o.third, ⟨o.third, o.first, o.second⟩)
  | _, _ => (o.first - 1, ⟨o.first - 1, o.first, o.second⟩)

/-- A sequence. -/
structure Sequence where
  literals : Nat
  offset : Nat
  copy : Nat
deriving DecidableEq, Repr

/-- The states of the three codes. -/
structure States where
  literals : Cell
  offset : Cell
  copy : Cell

namespace States

/-- Reads the first states. -/
def start? (t : Tables) (r : ReverseBits) : Option (States × ReverseBits) := do
  let (literals, r) ← t.literals.start? r
  let (offset, r) ← t.offset.start? r
  let (copy, r) ← t.copy.start? r
  return ({ literals, offset, copy }, r)

/-- Reads the next states. -/
def next? (t : Tables) (s : States) (r : ReverseBits) : Option (States × ReverseBits) := do
  let (literals, r) ← t.literals.next? s.literals r
  let (copy, r) ← t.copy.next? s.copy r
  let (offset, r) ← t.offset.next? s.offset r
  return ({ literals, offset, copy }, r)

/-- The least numbers of literals, offsets and copies with the bits that are added, for the reader
of many sequences. -/
structure Ranges where
  literals : Array (Nat × Nat) := Part.literals.ranges
  offset : Array (Nat × Nat) := Part.offset.ranges
  copy : Array (Nat × Nat) := Part.copy.ranges

/-- Reads a number whose symbol is known. -/
def number? (ranges : Array (Nat × Nat)) (symbol : Nat) (r : ReverseBits) :
    Option (Nat × ReverseBits) := do
  let (least, bits) ← ranges[symbol]?
  let (n, r) ← r.take? bits
  return (least + n, r)

/-- Reads the numbers of a sequence. -/
def sequence? (s : States) (ranges : Ranges) (o : Offsets) (r : ReverseBits) :
    Option (Sequence × Offsets × ReverseBits) := do
  let (number, r) ← number? ranges.offset s.offset.symbol r
  let (copy, r) ← number? ranges.copy s.copy.symbol r
  let (literals, r) ← number? ranges.literals s.literals.symbol r
  let (offset, o) := o.use number (literals ≠ 0)
  return ({ literals, offset, copy }, o, r)

end States

end WebhookGuard.Compression.Zstd

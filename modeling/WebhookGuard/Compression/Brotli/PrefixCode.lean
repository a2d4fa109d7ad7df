import WebhookGuard.Compression.Code

/-
  The prefix codes of Brotli. A code of up to four symbols is written as the row of its symbols. A
  larger one is written as the lengths of its codes, themselves in a prefix code, until the codes
  take up all strings of bits. Where there is one symbol only, it takes no bits.
-/
namespace WebhookGuard.Compression.Brotli

/-- A prefix code. -/
inductive PrefixCode where
  | only (symbol : Nat)
  | several (code : Code)

/-- Symbols from zero on. -/
structure Alphabet where
  /-- How many there are. -/
  size : Nat
  /-- How many of them may be used. -/
  limit : Nat := size
deriving DecidableEq, Repr

namespace PrefixCode

/-- Reads a symbol. -/
def read (c : PrefixCode) (b : Bits) : Except Stop (Nat × Bits) :=
  match c with
  | only symbol => .ok (symbol, b)
  | several code => code.read b

/-- The code in which some symbols have codes of given lengths. -/
def ofPairs (pairs : List (Nat × Nat)) (size : Nat) : Code :=
  .ofLengths ((List.range size).map fun symbol => (pairs.lookup symbol).getD 0)

/-- Reads symbols that are written as numbers of so many bits. -/
def readSymbols (width limit : Nat) : Nat → Bits → Except Stop (List Nat × Bits)
  | 0, b => .ok ([], b)
  | count + 1, b => do
    let (symbol, b) ← b.take width
    if limit ≤ symbol then .error .malformed
    let (symbols, b) ← readSymbols width limit count b
    return (symbol :: symbols, b)

/-- The lengths of the codes of two to four symbols. Four symbols come in two forms. -/
def shortLengths (count form : Nat) : List Nat :=
  match count, form with
  | 2, _ => [1, 1]
  | 3, _ => [1, 2, 2]
  | _, 0 => [2, 2, 2, 2]
  | _, _ => [1, 2, 3, 3]

/-- Reads a code that is written as its symbols. -/
def readShort (alphabet : Alphabet) (b : Bits) : Except Stop (PrefixCode × Bits) := do
  let (more, b) ← b.take 2
  let width := (alphabet.size - 1).log2 + 1
  let (symbols, b) ← readSymbols width alphabet.limit (more + 1) b
  if !decide symbols.Nodup then .error .malformed
  match symbols with
  | [symbol] => return (.only symbol, b)
  | _ =>
    let (form, b) ← if more = 3 then b.take 1 else .ok (0, b)
    let pairs := symbols.zip (shortLengths (more + 1) form)
    return (.several (ofPairs pairs alphabet.limit), b)

/-- The code in which the lengths of the code for lengths are written. -/
def widthCode : Code := .ofLengths [2, 4, 3, 2, 2, 4]

/-- The order in which the lengths of the code for lengths are written. -/
def widthOrder : List Nat :=
  [1, 2, 3, 4, 0, 5, 17, 6, 16, 7, 8, 9, 10, 11, 12, 13, 14, 15]

/-- Reads the lengths that are not zero of the code for lengths, until all symbols have theirs or
the codes take up all of the 32 strings of five bits. -/
def readWidths : List Nat → Nat → List (Nat × Nat) → Bits → Except Stop (List (Nat × Nat) × Bits)
  | [], used, widths, b =>
    if used = 32 ∨ widths.length = 1 then .ok (widths, b) else .error .malformed
  | symbol :: symbols, used, widths, b => do
    let (width, b) ← widthCode.read b
    if width = 0 then readWidths symbols used widths b
    else
      let used := used + 32 >>> width
      let widths := (symbol, width) :: widths
      if used < 32 then readWidths symbols used widths b
      else if used = 32 ∨ widths.length = 1 then return (widths, b)
      else .error .malformed

/-- Lengths of codes that have been read. -/
structure Lengths where
  /-- The lengths, the last one first. -/
  read : List Nat := []
  /-- How many symbols are left. -/
  left : Nat
  /-- How many strings of the greatest length begin with one of the codes. -/
  used : Nat := 0
  /-- The last length that is not zero. -/
  last : Nat := 8
  /-- The length that has been repeated last. -/
  repeated : Nat := 0
  /-- How often it has been repeated, if nothing came after. -/
  run : Nat := 0

namespace Lengths

/-- How many strings of the greatest length there are. -/
def space : Nat := 1 <<< Code.maxLength

/-- How many of them begin with one of so many codes of a length. -/
def share (length count : Nat) : Nat :=
  if length = 0 then 0 else count * (space >>> length)

/-- One length more. -/
def add (l : Lengths) (length : Nat) : Lengths :=
  { l with
    read := length :: l.read
    left := l.left - 1
    used := l.used + share length 1
    last := if length = 0 then l.last else length
    run := 0 }

/-- A length repeated. A repetition right after one of the same length makes that one longer: its
number, of so many bits, is a further digit of the count. -/
def addRun? (l : Lengths) (length width n : Nat) : Option Lengths :=
  let before := if l.repeated = length then l.run else 0
  let run := (if before = 0 then 0 else (before - 2) <<< width) + n + 3
  let count := run - before
  if l.left < count then none
  else some { l with
    read := List.replicate count length ++ l.read
    left := l.left - count
    used := l.used + share length count
    repeated := length
    run }

end Lengths

/-- Reads lengths of codes, at least one a step, until there are enough. -/
def readLengths (c : PrefixCode) : Nat → Lengths → Bits → Except Stop (Lengths × Bits)
  | 0, l, b => .ok (l, b)
  | fuel + 1, l, b =>
    if l.left = 0 ∨ l.used = Lengths.space then .ok (l, b)
    else do
      let (symbol, b) ← c.read b
      if symbol < 16 then readLengths c fuel (l.add symbol) b
      else
        let (length, width) := if symbol = 16 then (l.last, 2) else (0, 3)
        let (n, b) ← b.take width
        match l.addRun? length width n with
        | none => .error .malformed
        | some l => readLengths c fuel l b

/-- Reads a code that is written as lengths. The first symbols of the code for lengths may have been
left out. -/
def readLong (alphabet : Alphabet) (omitted : Nat) (b : Bits) :
    Except Stop (PrefixCode × Bits) := do
  let (widths, b) ← readWidths (widthOrder.drop omitted) 0 [] b
  let code := match widths with
    | [(symbol, _)] => only symbol
    | _ => several (ofPairs widths 18)
  let (lengths, b) ← readLengths code alphabet.limit { left := alphabet.limit } b
  if lengths.used = Lengths.space then return (several (.ofLengths lengths.read.reverse), b)
  else .error .malformed

/-- Reads a code for the symbols of an alphabet. -/
def readCode (alphabet : Alphabet) (b : Bits) : Except Stop (PrefixCode × Bits) := do
  let (form, b) ← b.take 2
  if form = 1 then readShort alphabet b else readLong alphabet form b

/-- Reads so many codes for the symbols of an alphabet. -/
def readCodes (alphabet : Alphabet) : Nat → Bits → Except Stop (List PrefixCode × Bits)
  | 0, b => .ok ([], b)
  | count + 1, b => do
    let (code, b) ← readCode alphabet b
    let (codes, b) ← readCodes alphabet count b
    return (code :: codes, b)

end PrefixCode

/-- Reads a number below 256, smaller ones in fewer bits. -/
def readSmall (b : Bits) : Except Stop (Nat × Bits) := do
  let (more, b) ← b.take 1
  if more = 0 then return (0, b)
  let (width, b) ← b.take 3
  let (n, b) ← b.take width
  return (1 <<< width + n, b)

end WebhookGuard.Compression.Brotli

import WebhookGuard.Compression.Bits

/-
  Canonical prefix codes. Each symbol has a code of some length, and the lengths determine the
  codes: shorter ones come first, and among those of one length the symbols are in order. The code
  of a symbol is read from its highest bit on.
-/
namespace WebhookGuard.Compression

/-- The codes of a set of symbols. -/
structure Code where
  /-- How many symbols have a code of each length. -/
  counts : Array Nat
  /-- The symbols that have a code, in the order of their codes. -/
  symbols : Array Nat
  /-- How many strings of the greatest length begin with a code. -/
  weight : Nat

namespace Code

/-- The greatest length of a code. -/
def maxLength : Nat := 15

/-- The symbols with a code of some length. -/
def symbolsOf (lengths : List Nat) (length : Nat) : List Nat :=
  lengths.zipIdx.filterMap fun (l, symbol) => if l = length then some symbol else none

/-- The codes for the lengths given for the symbols in order. A symbol of length zero has none. -/
def ofLengths (lengths : List Nat) : Code :=
  let byLength := (List.range maxLength).map fun i => symbolsOf lengths (i + 1)
  { counts := (0 :: byLength.map List.length).toArray
    symbols := byLength.flatten.toArray
    weight := (byLength.zipIdx.map fun (symbols, i) =>
      symbols.length <<< (maxLength - (i + 1))).foldl (· + ·) 0 }

/-- Whether every string of bits begins with exactly one code. -/
def isComplete (c : Code) : Bool := c.weight == 1 <<< maxLength

/-- Whether there are at least two codes. -/
def isProper (c : Code) : Bool := 1 < c.symbols.size

/-- Reads on in a code of which `code` has been read: at most `left` bits more. `first` is the least
code of the length reached and `index` the number of symbols with shorter ones. -/
def readFrom (c : Code) (code first index : Nat) :
    Nat → Bits → Except Stop (Nat × Bits)
  | 0, _ => .error .malformed
  | left + 1, b => do
    let (bit, b) ← b.take 1
    let code := 2 * code + bit
    let count := c.counts.getD (maxLength - left) 0
    if code < first + count then return (c.symbols.getD (index + code - first) 0, b)
    else if c.weight ≤ code <<< left then .error .malformed
    else c.readFrom code (2 * (first + count)) (index + count) left b

/-- Reads a symbol. -/
def read (c : Code) (b : Bits) : Except Stop (Nat × Bits) := c.readFrom 0 0 0 maxLength b

example : (read (ofLengths [2, 1, 3, 3]) ⟨bufferOf [0b011], 0⟩).toOption.map (·.1) = some 2 := by
  decide +kernel

end Code

/-- Reads the number that a symbol begins: the least one of the symbol and some bits that are added
to it, both from a table. -/
def readNumber (table : List (Nat × Nat)) (symbol : Nat) (b : Bits) : Except Stop (Nat × Bits) :=
  match table[symbol]? with
  | none => .error .malformed
  | some (least, extra) => do
    let (n, b) ← b.take extra
    return (least + n, b)

end WebhookGuard.Compression

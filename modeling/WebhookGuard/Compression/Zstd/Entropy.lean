import WebhookGuard.Compression.Zstd.ReverseBits

/-
  Entropy codes. A symbol belongs to a state, and the next state is made of a few bits. The more
  states a symbol has, the fewer bits it takes. A table of all states follows from how many each
  symbol has.
-/
namespace WebhookGuard.Compression.Zstd

/-- A state: its symbol, and how the next one is made: some bits added to the least one. -/
structure Cell where
  symbol : Nat
  bits : Nat
  least : Nat
deriving DecidableEq, Repr

instance : Inhabited Cell := ⟨⟨0, 0, 0⟩⟩

/-- The states of a code, as a power of two. -/
structure Table where
  log : Nat
  cells : Array Cell

/-- How the states are shared among the symbols: so many states as a power of two, and for each
symbol how many of them it has. A symbol that is too rare for one has `none`, and gets one. -/
structure Shares where
  log : Nat
  counts : List (Option Nat)
deriving DecidableEq, Repr

namespace Shares

/-- The symbols that are too rare for a state, with the last state for the first of them. -/
def rare (s : Shares) : List Nat :=
  s.counts.zipIdx.filterMap fun (count, symbol) => if count.isNone then some symbol else none

/-- The other symbols, each as often as it has states. -/
def common (s : Shares) : List Nat :=
  s.counts.zipIdx.flatMap fun (count, symbol) => List.replicate (count.getD 0) symbol

/-- The states in the order in which they are given away: one far from the next, and without those
from `limit` on. -/
def order (log limit : Nat) : List Nat :=
  let size := 1 <<< log
  let stride := size / 2 + size / 8 + 3
  ((List.range size).map fun i => i * stride % size).filter (· < limit)

/-- The symbol of each state. -/
def symbols (s : Shares) : Array Nat :=
  let size := 1 <<< s.log
  let limit := size - s.rare.length
  let given := ((order s.log limit).zip s.common).foldl
    (fun symbols (state, symbol) => symbols.setIfInBounds state symbol) (Array.replicate limit 0)
  given ++ s.rare.reverse.toArray

/-- The cells of the states in order, when `seen` tells how many states each symbol has had before,
on top of all it has. -/
def cells (log : Nat) : List Nat → Array Nat → List Cell
  | [], _ => []
  | symbol :: rest, seen =>
    let n := seen.getD symbol 1
    let bits := log - n.log2
    ⟨symbol, bits, n <<< bits - 1 <<< log⟩ :: cells log rest (seen.setIfInBounds symbol (n + 1))

/-- The table. -/
def table (s : Shares) : Table :=
  ⟨s.log, (cells s.log s.symbols.toList (s.counts.map (·.getD 1)).toArray).toArray⟩

/-- Reads how many symbols have no state after one without: as many as each number of two bits
says, up to one that is not three. -/
def readGap : Nat → Bits → Nat × Bits
  | 0, b => (0, b)
  | fuel + 1, b =>
    let n := b.peek 2
    let b := b.skip 2
    if n = 3 then
      let (more, b) := readGap fuel b
      (3 + more, b)
    else (n, b)

/-- Reads the number of states of one symbol when so many are left, and one more. The numbers that
can be have one bit less where that is enough. -/
def readCount (left : Nat) (b : Bits) : Nat × Bits :=
  let bits := left.log2
  let short := 2 <<< bits - 1 - left
  let low := b.peek bits
  if low < short then (low, b.skip bits)
  else
    let n := b.peek (bits + 1)
    (if n < 1 <<< bits then n else n - short, b.skip (bits + 1))

/-- Reads the numbers of states of up to `symbols` symbols until no state is left; `left` is one
more than the states that are. The numbers read are in reverse order. -/
def readCounts (symbols left : Nat) (read : List (Option Nat)) (b : Bits) :
    Option (List (Option Nat) × Bits) :=
  if left ≤ 1 then some (read, b)
  else
    match symbols with
    | 0 => none
    | symbols + 1 =>
      let (n, b) := readCount left b
      match n with
      | 0 => readCounts symbols (left - 1) (none :: read) b
      | 1 =>
        let (gap, b) := readGap symbols b
        if symbols < gap then none
        else readCounts (symbols - gap) left (List.replicate (gap + 1) (some 0) ++ read) b
      | n + 2 => readCounts symbols (left - (n + 1)) (some (n + 1) :: read) b
termination_by symbols
decreasing_by all_goals omega

/-- Reads the shares of a code for at most so many symbols, and how many bytes they take. -/
def read? (buffer : ByteArray) (symbols maxLog : Nat) : Option (Shares × Nat) := do
  let b : Bits := { buffer }
  let log := b.peek 4 + 5
  if maxLog < log then none
  let (counts, b) ← readCounts symbols (1 <<< log + 1) [] (b.skip 4)
  let size := (b.pos + 7) / 8
  if buffer.size < size then none else some (⟨log, counts.reverse⟩, size)

end Shares

namespace Table

/-- The code of a single symbol. -/
def only (symbol : Nat) : Table := ⟨0, #[⟨symbol, 0, 0⟩]⟩

/-- The cell of a state. -/
def cell (t : Table) (state : Nat) : Cell := t.cells.getD state default

/-- Reads the first state. -/
def start? (t : Table) (r : ReverseBits) : Option (Cell × ReverseBits) := do
  let (state, r) ← r.take? t.log
  return (t.cell state, r)

/-- Reads the state after another one. -/
def next? (t : Table) (cell : Cell) (r : ReverseBits) : Option (Cell × ReverseBits) := do
  let (n, r) ← r.take? cell.bits
  return (t.cell (cell.least + n), r)

end Table

end WebhookGuard.Compression.Zstd

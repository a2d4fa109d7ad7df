import WebhookGuard.Compression.Zstd.Sequence

/-
  Blocks. A compressed block has literals and sequences. It unpacks to what the sequences make of
  the literals, and to the literals that are left after the last one.
-/
namespace WebhookGuard.Compression.Zstd

/-- What a block leaves to the next ones of its frame. -/
structure Carried where
  tree : Option Tree := none
  tables : Option Tables := none
  offsets : Offsets := {}

/-- A buffer to which a block is added. -/
structure Target where
  out : ByteArray
  /-- Where the frame begins. -/
  start : Nat
  /-- The greatest size that the buffer may come to. -/
  limit : Nat

namespace Target

/-- Adds what a sequence makes: literals from a position on, and a copy. -/
def add (t : Target) (s : Sequence) (literals : ByteArray) (pos : Nat) :
    Except FrameFault Target :=
  let size := t.out.size + s.literals
  if t.limit < size + s.copy then .error .room
  else if literals.size < pos + s.literals then .error .corrupted
  else if s.offset = 0 ∨ size - t.start < s.offset then .error .corrupted
  else
    let ⟨out, start, limit⟩ := t
    .ok ⟨copyBack (appendFrom out literals pos s.literals) s.offset s.copy, start, limit⟩

/-- Adds the literals from a position on. -/
def addRest (t : Target) (literals : ByteArray) (pos : Nat) : Except FrameFault Target :=
  let count := literals.size - pos
  if t.limit < t.out.size + count then .error .room
  else
    let ⟨out, start, limit⟩ := t
    .ok ⟨appendFrom out literals pos count, start, limit⟩

end Target

/-- Reads so many sequences and adds what they make. Between two of them there are the next
states; after the last one nothing is left. -/
def addSequences (tables : Tables) (ranges : States.Ranges) (literals : ByteArray) :
    Nat → States → Offsets → ReverseBits → Nat → Target → Except FrameFault (Offsets × Nat × Target)
  | 0, _, offsets, r, pos, t => if r.left = 0 then .ok (offsets, pos, t) else .error .corrupted
  | count + 1, states, offsets, r, pos, t =>
    match states.sequence? ranges offsets r with
    | none => .error .corrupted
    | some (s, offsets, r) =>
      match t.add s literals pos with
      | .error fault => .error fault
      | .ok t =>
        let pos := pos + s.literals
        if count = 0 then addSequences tables ranges literals 0 states offsets r pos t
        else
          match states.next? tables r with
          | none => .error .corrupted
          | some (states, r) => addSequences tables ranges literals count states offsets r pos t

/-- Adds what a compressed block unpacks to, in a frame that begins at some place in the buffer. -/
def unpackBlock (limits : Limits) (carried : Carried) (block out : ByteArray) (start : Nat) :
    Except FrameFault (Carried × ByteArray) := do
  if limits.block < block.size then .error .size
  let literals ← Literals.read limits carried.tree block
  let carried := { carried with tree := literals.tree }
  let block := block.extract literals.size block.size
  let t : Target := ⟨out, start, out.size + limits.roomBeside literals.bytes.size⟩
  let (count, size) ← readCount block
  let block := block.extract size block.size
  if count = 0 then
    if block.size ≠ 0 then .error .corrupted
    let t ← t.addRest literals.bytes 0
    return (carried, t.out)
  else
    let (tables, size) ← readTables carried.tables block
    let r ← Literals.orCorrupted (ReverseBits.ofBuffer? (block.extract size block.size))
    let (states, r) ← Literals.orCorrupted (States.start? tables r)
    let (offsets, pos, t) ←
      addSequences tables {} literals.bytes count states carried.offsets r 0 t
    let t ← t.addRest literals.bytes pos
    return ({ carried with tables := some tables, offsets }, t.out)

end WebhookGuard.Compression.Zstd

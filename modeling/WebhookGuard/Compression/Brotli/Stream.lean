import WebhookGuard.Compression.Brotli.MetaBlock
import WebhookGuard.Compression.Brotli.Word
import WebhookGuard.Compression.Fault
import WebhookGuard.Compression.Piece

/-
  Data of Brotli: a window, and then meta-blocks up to one that is marked as the last. A meta-block
  holds its bytes as they are, or commands, or something that unpacks to nothing. A copy that would
  begin before the window, or before the start, takes a word of the dictionary. Data may end
  anywhere; it unpacks to what is there until then.
-/
namespace WebhookGuard.Compression.Brotli

/-- How far back a copy can reach. -/
structure Window where
  /-- The size, as a power of two. -/
  bits : Nat
  /-- Whether the window has the extended form, which comes with more symbols for distances. -/
  isLarge : Bool := false
deriving DecidableEq, Repr

namespace Window

/-- The greatest distance of a copy. A few bytes of the window are out of reach. -/
def reach (w : Window) : Nat := 1 <<< w.bits - 16

/-- Reads a window. -/
def read (b : Bits) : Except Stop (Window × Bits) := do
  let (n, b) ← b.take 1
  if n = 0 then return ({ bits := 16 }, b)
  let (n, b) ← b.take 3
  if n ≠ 0 then return ({ bits := 17 + n }, b)
  let (n, b) ← b.take 3
  if n = 0 then return ({ bits := 17 }, b)
  if n ≠ 1 then return ({ bits := 8 + n }, b)
  let (reserved, b) ← b.take 1
  if reserved = 1 then .error .malformed
  let (bits, b) ← b.take 6
  if 10 ≤ bits ∧ bits ≤ 30 then return ({ bits, isLarge := true }, b) else .error .malformed

end Window

/-- Where in the data the reader is. What is left is counted in bytes that it unpacks to. -/
inductive Phase where
  /-- Before a meta-block. -/
  | header
  /-- In a meta-block with so many more bytes as they are. -/
  | stored (left : Nat)
  /-- Before a command of a meta-block. -/
  | command (left : Nat)
  /-- Before so many bytes of a command, and its copy. -/
  | insert (count : Nat) (command : Command) (left : Nat)
  /-- Before the distance of the copy of a command. -/
  | copy (command : Command) (left : Nat)
  /-- After the last meta-block. -/
  | finished

/-- How far the data has been read. -/
structure Position where
  bits : Bits
  window : Window
  phase : Phase := .header
  /-- Whether the meta-block is the last one. -/
  isLast : Bool := false
  recent : Recent := {}
  metaBlock : MetaBlock := {}

/-- Goes on to the next whole byte, over bits that have to be zero. -/
def align (b : Bits) : Except Stop Bits :=
  if b.peek (b.align.pos - b.pos) = 0 then .ok b.align else .error .malformed

/-- Reads a size that has so many digits of so many bits. There are no more digits than needed, once
there are more than the least number of them. -/
def readSize (width least digits : Nat) (b : Bits) : Except Stop (Nat × Bits) := do
  let (n, b) ← b.take (width * digits)
  if least < digits ∧ n >>> (width * (digits - 1)) = 0 then .error .malformed
  return (n + 1, b)

/-- Skips something that unpacks to nothing. -/
def skipMetadata (b : Bits) : Except Stop Bits := do
  let (reserved, b) ← b.take 1
  if reserved = 1 then .error .malformed
  let (digits, b) ← b.take 2
  let (size, b) ← if digits = 0 then .ok (0, b) else readSize 8 1 digits b
  let b ← align b
  if b.bytesLeft < size then .error .truncated else return b.skip (8 * size)

namespace Position

/-- After the end of a meta-block. -/
def endBlock (p : Position) : Except Stop Position := do
  if p.isLast then
    let b ← align p.bits
    return { p with bits := b, phase := .finished }
  else return { p with phase := .header }

/-- Goes on where so many bytes are left, unless there are none. -/
def goOn (p : Position) (phase : Nat → Phase) (left : Nat) : Except Stop Position :=
  if left = 0 then p.endBlock else .ok { p with phase := phase left }

/-- Reads the start of a meta-block. -/
def readHeader (p : Position) : Except Stop Position := do
  let (last, b) ← p.bits.take 1
  let (isEmpty, b) ← if last = 1 then b.take 1 else .ok (0, b)
  let p := { p with bits := b, isLast := last = 1 }
  if isEmpty = 1 then return ← p.endBlock
  let (digits, b) ← b.take 2
  if digits = 3 then
    let b ← skipMetadata b
    return ← { p with bits := b }.endBlock
  let (size, b) ← readSize 4 4 (digits + 4) b
  let (isStored, b) ← if last = 1 then .ok (0, b) else b.take 1
  if isStored = 1 then
    let b ← align b
    return { p with bits := b, phase := .stored size }
  let (metaBlock, b) ← MetaBlock.read p.window.isLarge b
  return { p with bits := b, metaBlock, phase := .command size }

/-- Reads a command. -/
def readCommand (p : Position) (left : Nat) : Except Stop Position := do
  let (command, metaBlock, b) ← p.metaBlock.readCommand p.bits
  let p := { p with bits := b, metaBlock }
  if left < command.insert then .error .malformed
  else if command.insert = 0 then return { p with phase := .copy command left }
  else return { p with phase := .insert command.insert command (left - command.insert) }

/-- Reads the distance of a copy, and tells whether it counts as a new one. -/
def readDistance (p : Position) (command : Command) : Except Stop (Nat × Bool × Position) := do
  if command.isNear then return (p.recent.first, false, p)
  let (symbol, metaBlock, b) ← p.metaBlock.readDistance command.context p.bits
  let p := { p with bits := b, metaBlock }
  if symbol < Recent.symbols then
    match p.recent.distance? symbol with
    | some distance => return (distance, symbol ≠ 0, p)
    | none => .error .malformed
  else
    let (distance, b) ← metaBlock.form.readDistance symbol b
    return (distance, true, { p with bits := b })

/-- What a copy of some length takes from the dictionary when it would begin `beyond` bytes before
the first that is in reach. A word that leaves nothing has to lie far away. -/
def takeWord (length beyond distance : Nat) : Except Stop Bytes :=
  match word? length (beyond - 1) with
  | some word =>
    if DistanceForm.limit < distance ∨ (word = [] ∧ distance ≤ 120) then .error .malformed
    else .ok word
  | none => .error .malformed

/-- Reads the distance of the copy of a command, and makes the copy. -/
def readCopy (p : Position) (command : Command) (left size : Nat) :
    Except Stop (Position × Piece) := do
  let (distance, isNew, p) ← p.readDistance command
  let reach := min size p.window.reach
  if distance ≤ reach then
    if left < command.copy then .error .malformed
    let p := if isNew then { p with recent := p.recent.push distance } else p
    let p ← p.goOn .command (left - command.copy)
    return (p, .copy distance command.copy)
  else
    let word ← takeWord command.copy (distance - reach) distance
    if left < word.length then .error .malformed
    let p ← p.goOn .command (left - word.length)
    return (p, .bytes word)

/-- Reads the start of a meta-block, a command, a byte or a distance. -/
def next (p : Position) (out : ByteArray) : Except Stop (Position × Piece) :=
  match p.phase with
  | .header => p.readHeader.map fun p => (p, .nothing)
  | .command left => (p.readCommand left).map fun p => (p, .nothing)
  | .stored left => do
    let (byte, b) ← p.bits.take 8
    let p ← { p with bits := b }.goOn .stored (left - 1)
    return (p, .byte byte.toUInt8)
  | .insert count command left => do
    let last := byteAt out (out.size - 1)
    let earlier := if out.size < 2 then 0 else byteAt out (out.size - 2)
    let (byte, metaBlock, b) ← p.metaBlock.readByte last earlier p.bits
    let p := { p with bits := b, metaBlock }
    let p ← if count = 1 then p.goOn (.copy command) left
      else .ok { p with phase := .insert (count - 1) command left }
    return (p, .byte byte)
  | .copy command left => p.readCopy command left out.size
  | .finished => .ok (p, .nothing)

end Position

/-- Unpacks in so many steps. There is nothing wrong with data that ends too early. -/
def run : Nat → Position → ByteArray → Except Fault Unpacked
  | 0, _, out => .ok { out }
  | fuel + 1, p, out =>
    match p.phase with
    | .finished => if p.bits.bytesLeft = 0 then .ok { out } else .error .trailing
    | _ =>
      match p.next out with
      | .ok (p, piece) => run fuel p (piece.addTo out)
      | .error .truncated => .ok { out }
      | .error .malformed => .error .brotli

/-- How many steps at most there are in a meta-block without a bit being read: each second one at
least adds a byte. -/
def stepsBetween : Nat := 1 <<< 26

/-- Unpacks data of Brotli. -/
def unpack (data : Bytes) : Except Fault Unpacked :=
  let bits : Bits := { buffer := bufferOf data }
  match Window.read bits with
  | .ok (window, b) => run ((bits.size + 1) * stepsBetween) { bits := b, window } .empty
  | .error .truncated => .ok { out := .empty }
  | .error .malformed => .error .brotli

end WebhookGuard.Compression.Brotli

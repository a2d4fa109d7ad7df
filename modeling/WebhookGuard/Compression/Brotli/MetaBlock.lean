import WebhookGuard.Compression.Brotli.Block
import WebhookGuard.Compression.Brotli.Command
import WebhookGuard.Compression.Brotli.Context
import WebhookGuard.Compression.Brotli.Distance

/-
  Meta-blocks. One has three kinds of symbols: commands, bytes and distances. Each kind has its own
  blocks and codes, all of which are written at the start.
-/
namespace WebhookGuard.Compression.Brotli

/-- What is known of a meta-block from its start, and where a reader is in its blocks. -/
structure MetaBlock where
  bytes : Blocks := {}
  commands : Blocks := {}
  distances : Blocks := {}
  form : DistanceForm := {}
  /-- How contexts are made for each type of blocks of bytes. -/
  modes : Array ContextMode := #[]
  byteMap : Array Nat := #[]
  distanceMap : Array Nat := #[]
  byteCodes : Array PrefixCode := #[]
  commandCodes : Array PrefixCode := #[]
  distanceCodes : Array PrefixCode := #[]

namespace MetaBlock

/-- Reads what a meta-block begins with. -/
def read (isLarge : Bool) (b : Bits) : Except Stop (MetaBlock × Bits) := do
  let (bytes, b) ← Blocks.read b
  let (commands, b) ← Blocks.read b
  let (distances, b) ← Blocks.read b
  let (form, b) ← DistanceForm.read b
  let (modes, b) ← b.takeMany 2 bytes.types
  let (byteCount, byteMap, b) ← readContextMap (64 * bytes.types) b
  let (distanceCount, distanceMap, b) ← readContextMap (4 * distances.types) b
  let (byteCodes, b) ← PrefixCode.readCodes { size := 256 } byteCount b
  let (commandCodes, b) ← PrefixCode.readCodes { size := Command.symbols } commands.types b
  let (distanceCodes, b) ← PrefixCode.readCodes (form.alphabet isLarge) distanceCount b
  return ({
    bytes, commands, distances, form, byteMap, distanceMap
    modes := (modes.map ContextMode.ofBits).toArray
    byteCodes := byteCodes.toArray
    commandCodes := commandCodes.toArray
    distanceCodes := distanceCodes.toArray }, b)

/-- Reads a symbol in the code at some place. -/
def readIn (codes : Array PrefixCode) (place : Nat) (b : Bits) : Except Stop (Nat × Bits) :=
  (codes.getD place (.only 0)).read b

/-- Reads a command. -/
def readCommand (m : MetaBlock) (b : Bits) : Except Stop (Command × MetaBlock × Bits) := do
  let (commands, b) ← m.commands.next b
  let (command, b) ← Command.read (m.commandCodes.getD commands.type (.only 0)) b
  return (command, { m with commands }, b)

/-- Reads a byte that comes after two others. -/
def readByte (m : MetaBlock) (last earlier : UInt8) (b : Bits) :
    Except Stop (UInt8 × MetaBlock × Bits) := do
  let (bytes, b) ← m.bytes.next b
  let context := (m.modes.getD bytes.type .low).context last earlier
  let (symbol, b) ← readIn m.byteCodes (m.byteMap.getD (64 * bytes.type + context) 0) b
  return (symbol.toUInt8, { m with bytes }, b)

/-- Reads the symbol of a distance in some context. -/
def readDistance (m : MetaBlock) (context : Nat) (b : Bits) :
    Except Stop (Nat × MetaBlock × Bits) := do
  let (distances, b) ← m.distances.next b
  let place := m.distanceMap.getD (4 * distances.type + context) 0
  let (symbol, b) ← readIn m.distanceCodes place b
  return (symbol, { m with distances }, b)

end MetaBlock

end WebhookGuard.Compression.Brotli

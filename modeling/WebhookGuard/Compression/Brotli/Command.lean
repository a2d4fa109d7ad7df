import WebhookGuard.Compression.Brotli.PrefixCode

/-
  Commands. A command says how many bytes are written out and how many are copied after them. Its
  symbol stands for a range of either length, and for some symbols the distance of the copy is
  the last one again.
-/
namespace WebhookGuard.Compression.Brotli

/-- A command. -/
structure Command where
  /-- How many bytes are written out. -/
  insert : Nat
  /-- How many bytes are copied. -/
  copy : Nat
  /-- Whether the distance is the last one again. -/
  isNear : Bool
  /-- The context of the distance. -/
  context : Nat
deriving DecidableEq, Repr

namespace Command

/-- The least numbers of bytes to be written out, and how many bits are added to them. -/
def inserts : List (Nat × Nat) :=
  [ (0, 0), (1, 0), (2, 0), (3, 0), (4, 0), (5, 0), (6, 1), (8, 1), (10, 2), (14, 2), (18, 3),
    (26, 3), (34, 4), (50, 4), (66, 5), (98, 5), (130, 6), (194, 7), (322, 8), (578, 9),
    (1090, 10), (2114, 12), (6210, 14), (22594, 24) ]

/-- The least numbers of bytes to be copied, and how many bits are added to them. -/
def copies : List (Nat × Nat) :=
  [ (2, 0), (3, 0), (4, 0), (5, 0), (6, 0), (7, 0), (8, 0), (9, 0), (10, 1), (12, 1), (14, 2),
    (18, 2), (22, 3), (30, 3), (38, 4), (54, 4), (70, 5), (102, 5), (134, 6), (198, 7), (326, 8),
    (582, 9), (1094, 10), (2118, 24) ]

/-- The symbols come in cells of 64. These are the ranges of eight, in either table, that a cell
combines. -/
def cells : List (Nat × Nat) :=
  [(0, 0), (0, 1), (0, 0), (0, 1), (1, 0), (1, 1), (0, 2), (2, 0), (1, 2), (2, 1), (2, 2)]

/-- How many symbols there are. -/
def symbols : Nat := 704

/-- Below this symbol the distance is the last one again. -/
def nearLimit : Nat := 128

/-- Reads a command. -/
def read (c : PrefixCode) (b : Bits) : Except Stop (Command × Bits) := do
  let (symbol, b) ← c.read b
  let (insertCell, copyCell) := cells.getD (symbol / 64) (0, 0)
  let copySymbol := 8 * copyCell + symbol % 8
  let (insert, b) ← readNumber inserts (8 * insertCell + symbol / 8 % 8) b
  let (copy, b) ← readNumber copies copySymbol b
  return ({ insert, copy, isNear := symbol < nearLimit, context := min copySymbol 3 }, b)

example : cells.length * 64 = symbols := by decide

end Command

end WebhookGuard.Compression.Brotli

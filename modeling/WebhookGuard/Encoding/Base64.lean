import WebhookGuard.Bytes

/-
  Base64 with the standard alphabet. Three bytes are four symbols. A last group of one or two
  bytes is two or three symbols, filled up to four with `=` in the padded form and left short in
  the bare form. Reading either form accepts exactly what writing it produces: the bits that a
  short group leaves over must be zero, and nothing may stand before, between or after.
-/
namespace WebhookGuard.Encoding.Base64

/-- The symbol for a value below sixty-four. -/
def symbol (n : Nat) : Char :=
  if n < 26 then Char.ofNat (65 + n)
  else if n < 52 then Char.ofNat (71 + n)
  else if n < 62 then Char.ofNat (n - 4)
  else if n = 62 then '+'
  else '/'

/-- The value of a symbol of the alphabet. -/
def value? (c : Char) : Option Nat :=
  let n := c.toNat
  if 65 ≤ n ∧ n ≤ 90 then some (n - 65)
  else if 97 ≤ n ∧ n ≤ 122 then some (n - 71)
  else if 48 ≤ n ∧ n ≤ 57 then some (n + 4)
  else if c = '+' then some 62
  else if c = '/' then some 63
  else none

/-- The four symbols of three bytes. -/
def group3 (a b c : UInt8) : List Char :=
  [symbol (a.toNat / 4), symbol (a.toNat % 4 * 16 + b.toNat / 16),
    symbol (b.toNat % 16 * 4 + c.toNat / 64), symbol (c.toNat % 64)]

/-- The three symbols of two bytes. -/
def group2 (a b : UInt8) : List Char :=
  [symbol (a.toNat / 4), symbol (a.toNat % 4 * 16 + b.toNat / 16), symbol (b.toNat % 16 * 4)]

/-- The two symbols of one byte. -/
def group1 (a : UInt8) : List Char :=
  [symbol (a.toNat / 4), symbol (a.toNat % 4 * 16)]

/-- The padded form of a string of bytes. -/
def encode : Bytes → List Char
  | [] => []
  | [a] => group1 a ++ ['=', '=']
  | [a, b] => group2 a b ++ ['=']
  | a :: b :: c :: rest => group3 a b c ++ encode rest

/-- The bare form of a string of bytes: the padded form without its padding. -/
def encodeBare : Bytes → List Char
  | [] => []
  | [a] => group1 a
  | [a, b] => group2 a b
  | a :: b :: c :: rest => group3 a b c ++ encodeBare rest

/-- The three bytes of four symbols. -/
def read4 (a b c d : Char) : Option Bytes := do
  let v ← value? a
  let w ← value? b
  let x ← value? c
  let y ← value? d
  return [UInt8.ofNat (v * 4 + w / 16), UInt8.ofNat (w % 16 * 16 + x / 4),
    UInt8.ofNat (x % 4 * 64 + y)]

/-- The two bytes of a last group of three symbols. -/
def read3 (a b c : Char) : Option Bytes := do
  let v ← value? a
  let w ← value? b
  let x ← value? c
  if x % 4 = 0 then return [UInt8.ofNat (v * 4 + w / 16), UInt8.ofNat (w % 16 * 16 + x / 4)]
  else none

/-- The byte of a last group of two symbols. -/
def read2 (a b : Char) : Option Bytes := do
  let v ← value? a
  let w ← value? b
  if w % 16 = 0 then return [UInt8.ofNat (v * 4 + w / 16)] else none

/-- Reads the bare form. -/
def decodeBare : List Char → Option Bytes
  | [] => some []
  | [_] => none
  | [a, b] => read2 a b
  | [a, b, c] => read3 a b c
  | a :: b :: c :: d :: rest => do
    let bytes ← read4 a b c d
    let more ← decodeBare rest
    return bytes ++ more

/-- Reads the padded form: whole groups of four, the last of which may end in padding. -/
def decodePadded : List Char → Option Bytes
  | [] => some []
  | [a, b, c, d] =>
    if d = '=' then if c = '=' then read2 a b else read3 a b c
    else read4 a b c d
  | a :: b :: c :: d :: rest => do
    let bytes ← read4 a b c d
    let more ← decodePadded rest
    return bytes ++ more
  | _ => none

/-- Reads the padded form, or failing that the bare one. -/
def decode (cs : List Char) : Option Bytes :=
  (decodePadded cs).or (decodeBare cs)

end WebhookGuard.Encoding.Base64

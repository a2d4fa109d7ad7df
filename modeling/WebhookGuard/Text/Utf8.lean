import WebhookGuard.Bytes

/-
  Reading UTF-8. Bytes that come from outside may be no text. Reading cuts them into characters
  and malformed pieces; a malformed piece is as long as it could still have become a character.
-/
namespace WebhookGuard.Text

/-- A character of which some bytes have been read. -/
structure Partial where
  /-- How many bytes are missing. -/
  missing : Nat
  /-- The bits read so far. -/
  bits : Nat
  /-- The least value of the next byte. -/
  low : Nat := 0x80
  /-- The greatest value of the next byte. -/
  high : Nat := 0xBF

/-- What the first byte of a character announces. -/
inductive Opening where
  | whole (c : Char)
  | more (part : Partial)
  | malformed

/-- Reads the first byte of a character. -/
def opening (b : UInt8) : Opening :=
  let n := b.toNat
  if n < 0x80 then .whole (Char.ofNat n)
  else if n < 0xC2 then .malformed
  else if n < 0xE0 then .more { missing := 1, bits := n - 0xC0 }
  else if n = 0xE0 then .more { missing := 2, bits := 0, low := 0xA0 }
  else if n = 0xED then .more { missing := 2, bits := 0xD, high := 0x9F }
  else if n < 0xF0 then .more { missing := 2, bits := n - 0xE0 }
  else if n = 0xF0 then .more { missing := 3, bits := 0, low := 0x90 }
  else if n < 0xF4 then .more { missing := 3, bits := n - 0xF0 }
  else if n = 0xF4 then .more { missing := 3, bits := 4, high := 0x8F }
  else .malformed

/-- The characters of a string of bytes, with nothing in the place of each malformed piece. -/
def utf8Pieces : Option Partial → Bytes → List (Option Char)
  | none, [] => []
  | some _, [] => [none]
  | none, b :: bs =>
    match opening b with
    | .whole c => some c :: utf8Pieces none bs
    | .more part => utf8Pieces (some part) bs
    | .malformed => none :: utf8Pieces none bs
  | some part, b :: bs =>
    if part.low ≤ b.toNat ∧ b.toNat ≤ part.high then
      let bits := part.bits * 64 + b.toNat % 64
      if part.missing ≤ 1 then some (Char.ofNat bits) :: utf8Pieces none bs
      else utf8Pieces (some { missing := part.missing - 1, bits }) bs
    else
      none :: match opening b with
        | .whole c => some c :: utf8Pieces none bs
        | .more part => utf8Pieces (some part) bs
        | .malformed => none :: utf8Pieces none bs

/-- Whether a string of bytes is a text. -/
def isUtf8 (bytes : Bytes) : Bool :=
  (utf8Pieces none bytes).all Option.isSome

/-- The text of a string of bytes, with the replacement character for malformed pieces. -/
def ofUtf8Lossy (bytes : Bytes) : String :=
  String.ofList ((utf8Pieces none bytes).map fun c => c.getD '\ufffd')

end WebhookGuard.Text

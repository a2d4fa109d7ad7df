import WebhookGuard.Bytes

/-
  Hexadecimal. Each byte is two digits, the high half first. Written digits are small; reading
  takes either case and refuses an odd count and everything that is no digit.
-/
namespace WebhookGuard.Encoding.Hex

/-- The small digit for a value below sixteen. -/
def digit (n : Nat) : Char :=
  if n < 10 then Char.ofNat (48 + n) else Char.ofNat (87 + n)

/-- The value of a hexadecimal digit of either case. -/
def value? (c : Char) : Option Nat :=
  let n := c.toNat
  if 48 ≤ n ∧ n ≤ 57 then some (n - 48)
  else if 97 ≤ n ∧ n ≤ 102 then some (n - 87)
  else if 65 ≤ n ∧ n ≤ 70 then some (n - 55)
  else none

/-- The two digits of a byte. -/
def byteDigits (b : UInt8) : List Char :=
  [digit (b.toNat / 16), digit (b.toNat % 16)]

/-- The digits of a string of bytes. -/
def encode (bytes : Bytes) : List Char :=
  bytes.flatMap byteDigits

/-- The bytes that a string of digits writes, or nothing if it is not whole pairs of digits. -/
def decode : List Char → Option Bytes
  | [] => some []
  | [_] => none
  | a :: b :: rest => do
    let high ← value? a
    let low ← value? b
    let bytes ← decode rest
    return UInt8.ofNat (16 * high + low) :: bytes

end WebhookGuard.Encoding.Hex

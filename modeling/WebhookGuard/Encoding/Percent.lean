import WebhookGuard.Encoding.Hex

/-
  Bytes written as a percent sign and two hexadecimal digits. A percent sign that no two digits
  follow stands for itself.
-/
namespace WebhookGuard.Encoding.Percent

/-- The byte that two hexadecimal digits write. -/
def pair? (high low : UInt8) : Option UInt8 := do
  let digit? (d : UInt8) : Option Nat := Hex.value? (Char.ofNat d.toNat)
  return UInt8.ofNat (16 * (← digit? high) + (← digit? low))

/-- Puts bytes in the place of their digits. The bytes in `kept` stay written as they are. -/
def decode (kept : Bytes) : Bytes → Bytes
  | [] => []
  | [a] => [a]
  | [a, b] => [a, b]
  | a :: b :: c :: rest =>
    if a = 0x25 then
      match pair? b c with
      | some byte =>
        if byte ∈ kept then a :: decode kept (b :: c :: rest) else byte :: decode kept rest
      | none => a :: decode kept (b :: c :: rest)
    else a :: decode kept (b :: c :: rest)

example : decode [] (utf8 "%61%2f%") = utf8 "a/%" := by decide +kernel

example : decode [0x2F] (utf8 "%61%2f%") = utf8 "a%2f%" := by decide +kernel

end WebhookGuard.Encoding.Percent

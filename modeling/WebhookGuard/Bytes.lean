/-
  Bytes. Secrets, bodies, digests and signatures are strings of bytes; text becomes one through
  UTF-8, character by character.
-/
namespace WebhookGuard

/-- A string of bytes. -/
abbrev Bytes := List UInt8

/-- The bytes of a text in UTF-8. -/
def utf8 (s : String) : Bytes :=
  s.toList.flatMap String.utf8EncodeChar

end WebhookGuard

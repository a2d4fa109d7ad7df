import WebhookGuard.Digest.Sha256

/-
  HMAC with SHA-256. A key of up to one block is filled with zeros to a block, a longer one is
  digested first; the key masks an inner and an outer digest.
-/
namespace WebhookGuard.Digest

/-- The key as one block of sixty-four bytes. -/
def keyBlock (key : Bytes) : Bytes :=
  let short := if key.length ≤ 64 then key else sha256 key
  short ++ List.replicate (64 - short.length) 0

/-- The key block with every byte masked. -/
def maskedKey (key : Bytes) (mask : UInt8) : Bytes :=
  (keyBlock key).map (· ^^^ mask)

/-- The authentication tag of a message under a key. -/
def hmac (key message : Bytes) : Bytes :=
  sha256 (maskedKey key 0x5c ++ sha256 (maskedKey key 0x36 ++ message))

/-- A tag is thirty-two bytes long. -/
theorem length_hmac (key message : Bytes) : (hmac key message).length = 32 :=
  length_sha256 _

end WebhookGuard.Digest

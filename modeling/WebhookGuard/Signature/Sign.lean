import WebhookGuard.Digest.Hmac
import WebhookGuard.Encoding.Hex
import WebhookGuard.Signature.Encoding

/-
  Signing and checking. What is signed is the timestamp, a line feed, the nonce, a line feed and
  the body, each exactly as it was received. A signature is good when it decodes to the tag of
  that message under the shared secret.
-/
namespace WebhookGuard

open WebhookGuard.Digest WebhookGuard.Encoding

/-- The byte that ends a line. -/
def lineFeed : UInt8 := 10

/-- The signed message. -/
def canonicalMessage (timestamp nonce : String) (body : Bytes) : Bytes :=
  utf8 timestamp ++ lineFeed :: (utf8 nonce ++ lineFeed :: body)

/-- The tag of a message under a secret. -/
def sign (secret : Bytes) (timestamp nonce : String) (body : Bytes) : Bytes :=
  hmac secret (canonicalMessage timestamp nonce body)

/-- The tag in padded Base64, as a sender attaches it. -/
def signBase64 (secret : Bytes) (timestamp nonce : String) (body : Bytes) : String :=
  String.ofList (Base64.encode (sign secret timestamp nonce body))

/-- The tag in small hexadecimal digits. -/
def signHex (secret : Bytes) (timestamp nonce : String) (body : Bytes) : String :=
  String.ofList (Hex.encode (sign secret timestamp nonce body))

/-- Whether provided bytes are the expected tag. Other lengths than that of a tag never are. -/
def tagMatches (expected provided : Bytes) : Bool :=
  provided.length == tagLength && expected == provided

/-- Two secrets of any length are the same when their digests are. -/
def sameSecret (a b : Bytes) : Bool :=
  sha256 a == sha256 b

/-- Whether a written signature is the tag of the message. One that does not decode counts as no
bytes at all. -/
def signatureMatches (secret : Bytes) (timestamp nonce : String) (body : Bytes)
    (provided : String) (encoding : SignatureEncoding) : Bool :=
  tagMatches (sign secret timestamp nonce body) ((encoding.decode provided).getD [])

/-- A tag is as long as a tag has to be. -/
theorem length_sign (secret : Bytes) (timestamp nonce : String) (body : Bytes) :
    (sign secret timestamp nonce body).length = tagLength :=
  length_hmac _ _

end WebhookGuard

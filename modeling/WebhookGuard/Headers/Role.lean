/-
  The three headers that a delivery has to carry, and the names they are looked for under: the
  name in the settings first, then the built-in names.
-/
namespace WebhookGuard

/-- What a header is read for. -/
inductive HeaderRole where
  | signature
  | timestamp
  | nonce
deriving DecidableEq, Repr

namespace HeaderRole

/-- The name that is used unless the settings give another. -/
def defaultName : HeaderRole → String
  | signature => "X-Swish-Signature"
  | timestamp => "X-Swish-Timestamp"
  | nonce => "X-Swish-Nonce"

/-- The names that are tried after the one in the settings, in order. -/
def aliases : HeaderRole → List String
  | signature => [signature.defaultName, "X-Signature"]
  | timestamp => [timestamp.defaultName, "X-Timestamp"]
  | nonce => [nonce.defaultName, "X-Nonce"]

/-- All roles. -/
def all : List HeaderRole := [signature, timestamp, nonce]

end HeaderRole

end WebhookGuard

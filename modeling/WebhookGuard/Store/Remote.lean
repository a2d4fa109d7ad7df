import WebhookGuard.Address.Check
import WebhookGuard.Options
import WebhookGuard.Store.Memory

/-
  The store of several hosts: a key-value server that applies a conditional write with a time to
  live in one step and drops the key itself when its time is up. One connection is opened by the
  first claim that needs it and kept. It is given up when the server closes it; an answer that
  reports an error leaves it open.
-/
namespace WebhookGuard

/-- What a server does with a conditional write. -/
inductive ServerAct where
  /-- The key was new and is written. -/
  | written
  /-- The key exists. -/
  | present
  /-- The server answers with an error. -/
  | refused (text : String)
  /-- The server closes the connection instead of answering. -/
  | closed
deriving DecidableEq, Repr

/-- A server, with what it will do with the writes to come. -/
structure Server where
  /-- Whether connections are accepted. -/
  reachable : Bool := true
  /-- What it does with the next writes; with later ones it does `.written`. -/
  script : List ServerAct := []
  /-- How many connections it has accepted. -/
  connections : Nat := 0
  /-- The arguments of the writes it has received, the latest first. -/
  received : List (List String) := []
deriving DecidableEq, Repr

/-- A store on a server, and whether it holds a connection. -/
structure RemoteStore where
  keyStart : String
  server : Server := {}
  connected : Bool := false
deriving DecidableEq, Repr

namespace RemoteStore

/-- What keys begin with unless the settings say otherwise. -/
def defaultKeyStart : String := "swish:nonce:"

/-- A store for an address. A blank start of keys is replaced. No connection is made. -/
def open? (address keyStart : String) (server : Server) : Except ConfigError RemoteStore :=
  if Text.isBlank address then .error (.missingRequired "redis connection string")
  else
    match Address.fault? address with
    | some fault => .error (.backend (.address fault))
    | none =>
      .ok { keyStart := if Text.isBlank keyStart then defaultKeyStart else keyStart, server }

/-- The description of a store, which keeps the address to itself. -/
def description (s : RemoteStore) : String :=
  Text.record "RedisNonceStore" [("key_prefix", Text.quoted s.keyStart)] true

/-- The key of a nonce. -/
def key (s : RemoteStore) (nonce : String) : String := s.keyStart ++ nonce

/-- How long a claim lasts, in whole milliseconds, cut off toward zero. -/
def lifetime (c : Claim) : Int := (c.expiresAt.since c.now).tdiv 1000000

/-- The arguments of the conditional write of a claim. -/
def writeArguments (s : RemoteStore) (c : Claim) : List String :=
  [s.key c.nonce, "1", "NX", "PX", toString (lifetime c)]

/-- Sends the write of a claim over the open connection. -/
def send (s : RemoteStore) (c : Claim) : RemoteStore × Except StoreError Bool :=
  let act := s.server.script.headD .written
  let server := { s.server with
    script := s.server.script.drop 1
    received := s.writeArguments c :: s.server.received }
  match act with
  | .written => ({ s with server }, .ok true)
  | .present => ({ s with server }, .ok false)
  | .refused text => ({ s with server }, .error (.unavailable ("redis SET NX failed: " ++ text)))
  | .closed =>
    ({ s with server, connected := false },
      .error (.unavailable "redis SET NX failed: connection closed"))

/-- Claims a nonce. Claims that would last no millisecond, and blank nonces, are not sent. -/
def claim (s : RemoteStore) (c : Claim) : RemoteStore × Reply :=
  if Text.isBlank c.nonce then (s, { answer := .ok false })
  else if lifetime c ≤ 0 then (s, { answer := .ok false })
  else if s.connected then
    let (s, answer) := s.send c
    (s, { answer })
  else if s.server.reachable then
    let server := { s.server with connections := s.server.connections + 1 }
    let (s, answer) := { s with server, connected := true }.send c
    (s, { answer, events := [.connectionOpened] })
  else (s, { answer := .error (.unavailable "redis connect failed: connection refused") })

instance : NonceStore RemoteStore where
  claim := claim
  purge s _ := (s, .ok 0)

end RemoteStore

end WebhookGuard

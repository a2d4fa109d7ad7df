import WebhookGuard.Address.Url
import WebhookGuard.Error

/-
  Checking an address. An address over the network needs a host, cannot ask for encryption, and may
  name a database by number in its path; user and password have to be text. An address of a socket
  needs a path. The first thing wrong is reported.
-/
namespace WebhookGuard.Address

open WebhookGuard.Text WebhookGuard.Encoding

/-- What is wrong with the protocol version that a query asks for. -/
def Url.protocolFault? (u : Url) : Option AddressFault :=
  match u.parameter? "protocol" with
  | none => none
  | some version =>
    if version ∈ ["2", "resp2", "3", "resp3"] then none else some (.protocol version)

/-- Whether a part of the authority is text once its bytes are decoded. -/
def isDecodable (cs : List Char) : Bool :=
  isUtf8 (Percent.decode [] (utf8 (String.ofList cs)))

/-- A database number, or nothing for the first one. -/
def isDatabase (cs : List Char) : Bool :=
  cs.isEmpty || (integer? cs).isSome

/-- What is wrong with an address over the network in the clear. -/
def Url.networkFault? (u : Url) : Option AddressFault :=
  if !isDatabase u.trimmedPath then some .database
  else if !isDecodable u.userName then some .userName
  else if !isDecodable u.password then some .password
  else u.protocolFault?

/-- What is wrong with an address of a socket. -/
def Url.socketFault? (u : Url) : Option AddressFault :=
  if u.path.isNone || (u.host.isSome && u.host != some "localhost".toList) then some .noPath
  else if !((u.parameter? "db").all fun db => (integer? db.toList).isSome) then some .database
  else u.protocolFault?

/-- The first thing wrong with an address in its parts. -/
def Url.fault? (u : Url) : Option AddressFault :=
  match u.scheme with
  | .plain => if u.host.isNone then some .noHost else u.networkFault?
  | .encrypted => if u.host.isNone then some .noHost else some .encrypted
  | .socket => u.socketFault?

/-- The first thing wrong with an address as it is written. -/
def fault? (s : String) : Option AddressFault :=
  match Url.ofText? s with
  | none => some .malformed
  | some u => u.fault?

end WebhookGuard.Address

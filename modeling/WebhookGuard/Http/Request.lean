import WebhookGuard.Compression.Coding
import WebhookGuard.Encoding.Percent
import WebhookGuard.Headers.Basic
import WebhookGuard.Text.Numeral
import WebhookGuard.Text.Quoted
import WebhookGuard.Text.Record

/-
  Requests. The values of header fields are bytes, and a field whose value is not visible ASCII is
  passed over: it counts as absent, and nobody guesses at its encoding. Of several values for one
  name the first that is left counts. A body may be compressed. It has a limit, which the length
  that a request declares has to keep as well.
-/
namespace WebhookGuard

open WebhookGuard.Text WebhookGuard.Encoding

/-- A header field. -/
structure Field where
  name : String
  value : Bytes
deriving DecidableEq, Repr

/-- A request as it was received. -/
structure Request where
  method : String
  target : String
  fields : List Field := []
  body : Bytes := []
deriving DecidableEq, Repr

/-- Whether a byte is a visible character of ASCII, a space or a tab. -/
def isVisible (b : UInt8) : Bool :=
  (0x20 ≤ b && b < 0x7F) || b == 0x09

/-- The text of a value that is visible ASCII. -/
def visibleText? (value : Bytes) : Option String :=
  if value.all isVisible then some (String.ofList (value.map fun b => Char.ofNat b.toNat))
  else none

namespace Request

/-- The first value of a name. -/
def value? (r : Request) (name : String) : Option Bytes :=
  (r.fields.find? fun field => sameUpToCase field.name name).map Field.value

/-- The headers of a request: its visible values. -/
def headers (r : Request) : Headers :=
  .ofList (r.fields.filterMap fun field => (visibleText? field.value).map fun s => (field.name, s))

/-- A target without the scheme and the authority that may stand in front of the path. -/
def localTarget (target : List Char) : List Char :=
  match target.dropWhile (· != ':') with
  | ':' :: '/' :: '/' :: rest =>
    if target.head? = some '/' then target
    else rest.dropWhile fun c => c != '/' && c != '?' && c != '#'
  | _ => target

/-- The bytes that a path keeps written by their digits: the percent sign, the plus sign and the
slash, which would make another path of it. -/
def keptInPath : Bytes := [0x25, 0x2B, 0x2F]

/-- The path that a request asks for. The query does not belong to it. -/
def path (r : Request) : Bytes :=
  let written := (localTarget r.target.toList).takeWhile fun c => c != '?' && c != '#'
  Percent.decode keptInPath (utf8 (String.ofList written))

end Request

/-- Why a body is not read. -/
inductive BodyFault where
  | tooLong
  | unknownLength
  /-- It is compressed, and something is wrong with it. -/
  | packed (fault : Compression.Fault)
deriving DecidableEq, Repr

/-- How a fault of compressed data is written as an error. -/
def faultText (fault : Compression.Fault) : String :=
  match fault with
  | .trailing =>
    record "Error" [("kind", fault.kind), ("message", quoted fault.cause)] false
  | _ => record "Custom" [("kind", fault.kind), ("error", quoted fault.cause)] false

/-- The wording of why a body is not read. -/
def BodyFault.message : BodyFault → String
  | tooLong => "payload reached size limit"
  | unknownLength => "payload length is unknown"
  | packed fault => "payload reached EOF before completing: Some(" ++ faultText fault ++ ")"

namespace Request

/-- The greatest length of a body: 256 KiB. -/
def bodyLimit : Nat := 262144

/-- The length that a request declares, if it declares any. -/
def declaredLength (r : Request) : Except BodyFault (Option Nat) :=
  match r.value? "content-length" with
  | none => .ok none
  | some value =>
    match (visibleText? value).bind fun s => count? 18446744073709551615 s.toList with
    | some n => .ok (some n)
    | none => .error .unknownLength

/-- How the body is compressed. A name that stands for no coding does not count. -/
def coding? (r : Request) : Option Compression.Coding := do
  let value ← r.value? "content-encoding"
  Compression.Coding.ofName? (← visibleText? value)

/-- The body as it was before it was compressed. Its length is limited, not that of what was sent;
what is wrong only at its end counts after its length. -/
def unpackedBody (r : Request) : Except BodyFault Bytes :=
  match r.coding? with
  | none => if bodyLimit < r.body.length then .error .tooLong else .ok r.body
  | some coding =>
    match coding.unpack r.body with
    | .error fault => .error (.packed fault)
    | .ok unpacked =>
      if bodyLimit < unpacked.out.size then .error .tooLong
      else
        match unpacked.atEnd with
        | some fault => .error (.packed fault)
        | none => .ok unpacked.out.data.toList

/-- The body of a request as it is to be read. -/
def content (r : Request) : Except BodyFault Bytes := do
  let declared ← r.declaredLength
  if bodyLimit < declared.getD 0 then .error .tooLong
  r.unpackedBody

end Request

end WebhookGuard

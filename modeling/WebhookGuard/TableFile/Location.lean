import WebhookGuard.Encoding.Percent
import WebhookGuard.Error
import WebhookGuard.Text.Ascii
import WebhookGuard.Text.Opening
import WebhookGuard.Text.Split
import WebhookGuard.Text.Utf8

/-
  Locations of tables. A location is written as a path, or as a URI of the scheme `file` whose query
  says how to open the table. In a URI bytes may be written by their digits, and a zero byte written
  that way ends the part it stands in.
-/
namespace WebhookGuard.TableFile

open WebhookGuard.Text WebhookGuard.Encoding

/-- What may be done with a table. -/
inductive Access where
  | read
  | write
  /-- It may also be made where it is not there. -/
  | create
  /-- It is kept in memory. -/
  | memory
deriving DecidableEq, Repr

namespace Access

/-- The access of a name in a query. -/
def ofName? (name : Bytes) : Option Access :=
  [("ro", read), ("rw", write), ("rwc", create), ("memory", memory)].lookup (ofUtf8Lossy name)

/-- How much an access permits. -/
def rank : Access → Nat
  | read => 1
  | write => 2
  | create => 3
  | memory => 4

/-- Whether an access can be narrowed to another one. A table can always be kept in memory. -/
def admits (a b : Access) : Bool :=
  b == memory || b.rank ≤ a.rank

end Access

/-- A location in its parts. -/
structure Location where
  /-- The path, or one of the names for a table without a file. -/
  path : Bytes
  /-- The parameters of the query, in order. -/
  parameters : List (Bytes × Bytes) := []
  access : Access := .create
  /-- The driver asked for by name. -/
  driver : Option Bytes := none
deriving DecidableEq, Repr

/-- A part of a URI. -/
def decoded (part : Bytes) : Bytes :=
  (Percent.decode [] part).takeWhile (· ≠ 0)

/-- The parameters of a query. One without a name does not count. -/
def queryParameters (query : Bytes) : List (Bytes × Bytes) :=
  let pairs := (splitAt 0x26 query).map fun part =>
    let (name, value) := splitFirst 0x3D part
    (decoded name, decoded value)
  pairs.filter (!·.1.isEmpty)

/-- What follows the authority of a URI, which can only be this host. -/
def localPart (rest : Bytes) : Except TableFault Bytes :=
  match after? (utf8 "//") rest with
  | none => .ok rest
  | some rest =>
    let authority := rest.takeWhile (· ≠ 0x2F)
    if authority.isEmpty ∨ authority = utf8 "localhost" then .ok (rest.dropWhile (· ≠ 0x2F))
    else .error (.authority (ofUtf8Lossy authority))

namespace Location

/-- Takes a parameter into account. -/
def apply (l : Location) (parameter : Bytes × Bytes) : Except TableFault Location :=
  let (name, value) := parameter
  if name = utf8 "vfs" then .ok { l with driver := some value }
  else if name = utf8 "cache" then
    if value = utf8 "shared" ∨ value = utf8 "private" then .ok l
    else .error (.noSuchMode "cache" (ofUtf8Lossy value))
  else if name = utf8 "mode" then
    match Access.ofName? value with
    | none => .error (.noSuchMode "access" (ofUtf8Lossy value))
    | some access =>
      if l.access.admits access then .ok { l with access }
      else .error (.modeNotAllowed (ofUtf8Lossy value))
  else .ok l

/-- Reads a URI after its scheme. The fragment does not count. -/
def ofUri (rest : Bytes) : Except TableFault Location := do
  let (path, query) := splitFirst 0x3F ((← localPart rest).takeWhile (· ≠ 0x23))
  let parameters := queryParameters query
  parameters.foldlM apply { path := decoded path, parameters }

/-- Reads a location. -/
def ofText (text : String) : Except TableFault Location :=
  let bytes := utf8 text
  let position := (bytes.takeWhile (· ≠ 0)).length
  if position < bytes.length then .error (.zeroByte position)
  else
    match after? (utf8 "file:") bytes with
    | some rest => ofUri rest
    | none => .ok { path := bytes }

/-- The first value of a parameter. -/
def parameter? (l : Location) (name : String) : Option Bytes :=
  l.parameters.lookup (utf8 name)

/-- The number that the digits at the start of a text write in a base. -/
def leadingNumber (base : Nat) (cs : List Char) : Nat :=
  let digit? (c : Char) : Option Nat := (Hex.value? c).filter (· < base)
  (cs.map digit?).takeWhile Option.isSome |>.foldl (fun n d => base * n + d.getD 0) 0

/-- Whether a value switches something on: a word does, and a number that is not zero in its last
eight bits. Numbers beyond 31 bits count as zero. -/
def switchesOn (value : String) : Bool :=
  if value.toList.head?.any Char.isDigit then
    let n := match after? "0x".toList value.toList with
      | some digits => leadingNumber 16 digits
      | none => leadingNumber 10 value.toList
    n < 2147483648 && n % 256 != 0
  else value ∈ ["on", "yes", "true"]

/-- Whether a parameter is switched on, in letters of either case. -/
def isOn (l : Location) (name : String) : Bool :=
  (l.parameter? name).any fun value => switchesOn (lower (ofUtf8Lossy value))

end Location

end WebhookGuard.TableFile

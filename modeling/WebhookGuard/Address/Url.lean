import WebhookGuard.Address.Host
import WebhookGuard.Encoding.Percent
import WebhookGuard.Text.Utf8

/-
  Addresses of remote stores in the form of a URL: a scheme, an authority with user, password, host
  and TCP port, a path and a query. Blanks and control characters around the text do not count, and
  neither do tabs and line ends anywhere in it.
-/
namespace WebhookGuard.Address

open WebhookGuard.Text WebhookGuard.Encoding

/-- How a remote store is reached. -/
inductive Scheme where
  /-- Over the network in the clear. -/
  | plain
  /-- Over the network under encryption. -/
  | encrypted
  /-- Through a socket file. -/
  | socket
deriving DecidableEq, Repr

/-- The scheme that a name in small letters stands for. -/
def Scheme.ofName? (name : List Char) : Option Scheme :=
  let name := String.ofList name
  if name = "redis" then some .plain
  else if name = "rediss" then some .encrypted
  else if name ∈ ["unix", "redis+unix"] then some .socket
  else none

/-- An address in its parts. -/
structure Url where
  scheme : Scheme
  userName : List Char := []
  password : List Char := []
  /-- The host, unless it is empty. -/
  host : Option (List Char) := none
  /-- The segments of a path that begins with a slash. -/
  path : Option (List (List Char)) := none
  query : List Char := []
deriving DecidableEq, Repr

/-- A text without what does not count in it. -/
def clean (s : String) : List Char :=
  let outer (c : Char) : Bool := c.toNat ≤ 0x20
  let inner (c : Char) : Bool := c == '\t' || c == '\n' || c == '\r'
  let cs := (s.toList.dropWhile outer).reverse.dropWhile outer
  cs.reverse.filter fun c => !inner c

/-- The name of the scheme in small letters and what follows its colon. -/
def splitScheme? : List Char → Option (List Char × List Char)
  | [] => none
  | c :: cs =>
    let inName (c : Char) : Bool := c.isAlphanum || c == '+' || c == '-' || c == '.'
    match cs.dropWhile inName with
    | ':' :: rest =>
      if c.isAlpha then some ((c :: cs.takeWhile inName).map Char.toLower, rest) else none
    | _ => none

/-- What stands before and after the last at sign. -/
def splitUser? (cs : List Char) : Option (List Char × List Char) :=
  match cs.reverse.dropWhile (· != '@') with
  | _ :: before => some (before.reverse, (cs.reverse.takeWhile (· != '@')).reverse)
  | [] => none

/-- A segment that stays where it is. -/
def isHere (segment : List Char) : Bool :=
  ["." , "%2e"].contains (String.ofList (segment.map Char.toLower))

/-- A segment that leads one up. -/
def isUp (segment : List Char) : Bool :=
  ["..", ".%2e", "%2e.", "%2e%2e"].contains (String.ofList (segment.map Char.toLower))

/-- A letter and a colon or bar, alone or with a backslash after them: no path leads up out of
such a segment. -/
def isDrive : List Char → Bool
  | letter :: mark :: rest =>
    letter.isAlpha && (mark == ':' || mark == '|') && (rest.isEmpty || rest.head? == some '\\')
  | _ => false

/-- Follows the segments of a path; those passed so far are in reverse order. -/
def followPath : List (List Char) → List (List Char) → List (List Char)
  | passed, [] => passed.reverse
  | passed, [last] =>
    if isHere last then ([] :: passed).reverse
    else if isUp last then ([] :: up passed).reverse
    else (last :: passed).reverse
  | passed, segment :: rest =>
    if isHere segment then followPath passed rest
    else if isUp segment then followPath (up passed) rest
    else followPath (segment :: passed) rest
where
  /-- One up from the last segment passed. -/
  up : List (List Char) → List (List Char)
    | [] => []
    | last :: passed => if isDrive last then last :: passed else passed

/-- The segments of a path; a path that does not begin with a slash is given one. -/
def pathSegments (cs : List Char) : List (List Char) :=
  match cs with
  | '/' :: rest => followPath [] (splitAt '/' rest)
  | cs => followPath [] (splitAt '/' cs)

/-- A TCP port: digits below 65536, or none at all. What follows them can only be a backslash, which
then begins the path. -/
def tcpPort? (cs : List Char) : Option (List Char) :=
  let digits := cs.takeWhile Char.isDigit
  let rest := cs.dropWhile Char.isDigit
  if (digits? digits).getD 0 < 65536 ∧ (rest.isEmpty ∨ rest.head? = some '\\') then some rest
  else none

/-- Reads what follows two slashes: the authority, and the path up to the query. `more` tells
whether anything follows the authority. -/
def ofAuthority? (scheme : Scheme) (authority path query : List Char) (more : Bool) :
    Option Url := do
  let (user, place) := (splitUser? authority).getD ([], authority)
  -- An at sign with nothing around it needs a host once anything follows.
  if (splitUser? authority).isSome ∧ user.isEmpty ∧ place.isEmpty ∧ more then none
  let (userName, password) := splitFirst ':' user
  let (host, portPart) := splitPort false place
  if host.isEmpty then
    if portPart.isEmpty ∧ userName.isEmpty ∧ password.isEmpty then pure () else none
  if !isHost host then none
  let beyond ← match portPart with
    | [] => some []
    | _ :: digits => tcpPort? digits
  let path := beyond ++ path
  return {
    scheme, userName, password, query
    host := if host.isEmpty then none else some host
    path := if path.isEmpty then none else some (pathSegments path) }

/-- The parts of an address, if the text is one. -/
def Url.ofText? (s : String) : Option Url := do
  let (name, rest) ← splitScheme? (clean s)
  let scheme ← Scheme.ofName? name
  let (body, fragment) := (rest.takeWhile (· != '#'), rest.dropWhile (· != '#'))
  let (place, query) := splitFirst '?' body
  match place with
  | '/' :: '/' :: place =>
    let authority := place.takeWhile (· != '/')
    let path := place.dropWhile (· != '/')
    let more := !path.isEmpty || body.contains '?' || !fragment.isEmpty
    ofAuthority? scheme authority path query more
  | '/' :: path => return { scheme, query, path := some (pathSegments path) }
  | _ => return { scheme, query }

/-- A part of a query: plus signs are spaces, and bytes may be written by their digits. -/
def queryText (cs : List Char) : String :=
  let spaced := cs.map fun c => if c = '+' then ' ' else c
  ofUtf8Lossy (Percent.decode [] (utf8 (String.ofList spaced)))

/-- The last value that a query gives for a name. -/
def Url.parameter? (u : Url) (name : String) : Option String :=
  let pairs := ((splitAt '&' u.query).filter (!·.isEmpty)).map fun part =>
    let (key, value) := splitFirst '=' part
    (queryText key, queryText value)
  pairs.reverse.lookup name

/-- The path without the slashes at its ends. -/
def Url.trimmedPath (u : Url) : List Char :=
  let text := match u.path with
    | none => []
    | some segments => ['/'].intercalate segments
  ((text.dropWhile (· == '/')).reverse.dropWhile (· == '/')).reverse

end WebhookGuard.Address

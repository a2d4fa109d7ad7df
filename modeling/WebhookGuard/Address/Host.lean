import WebhookGuard.Encoding.Hex
import WebhookGuard.Text.Numeral
import WebhookGuard.Text.Split

/-
  Hosts. A host is a name or, in brackets, a numeric address of eight groups of sixteen bits. Two
  colons in a row stand for one or more groups of zeros, and the last two groups may be written as
  four decimal numbers.
-/
namespace WebhookGuard.Address

open WebhookGuard.Text WebhookGuard.Encoding

/-- Characters that no host name holds. -/
def forbiddenInName : List Char :=
  [ '\x00', '\t', '\n', '\r', ' ', '#', '/', ':', '<', '>', '?', '@', '[', '\\', ']', '^', '|' ]

/-- Whether a host name holds only what it may. -/
def isHostName (cs : List Char) : Bool :=
  cs.all fun c => !forbiddenInName.contains c

/-- One to four hexadecimal digits. -/
def isGroup (cs : List Char) : Bool :=
  !cs.isEmpty && cs.length ≤ 4 && cs.all fun c => (Hex.value? c).isSome

/-- A decimal number below 256 without leading zeros. -/
def isOctet (cs : List Char) : Bool :=
  match digits? cs with
  | some n => n < 256 && (cs.length == 1 || cs.head? != some '0')
  | none => false

/-- Four decimal numbers with points between them. -/
def isDottedQuad (cs : List Char) : Bool :=
  let parts := splitAt '.' cs
  parts.length == 4 && parts.all isOctet

/-- How many groups a list of written groups stands for, if each is well formed. Only the very
last may be four decimal numbers, which count for two. -/
def groupCount? (last : Bool) : List (List Char) → Option Nat
  | [] => some 0
  | [g] => if isGroup g then some 1 else if last && isDottedQuad g then some 2 else none
  | g :: gs => if isGroup g then (groupCount? last gs).map (· + 1) else none

/-- The written groups of a part of an address; a part without characters has none. -/
def groups (cs : List Char) : List (List Char) :=
  if cs.isEmpty then [] else splitAt ':' cs

/-- What stands before and after the first two colons in a row. -/
def splitAtGap? : List Char → Option (List Char × List Char)
  | ':' :: ':' :: rest => some ([], rest)
  | c :: cs => (splitAtGap? cs).map fun (before, after) => (c :: before, after)
  | [] => none

/-- Whether a text in brackets is a numeric address. -/
def isNumericHost (cs : List Char) : Bool :=
  match splitAtGap? cs with
  | some (before, after) =>
    match groupCount? false (groups before), groupCount? true (groups after) with
    | some m, some n => m + n ≤ 7
    | _, _ => false
  | none => groupCount? true (groups cs) == some 8

/-- Whether a text is a host. -/
def isHost (cs : List Char) : Bool :=
  match cs with
  | '[' :: rest => rest.getLast? == some ']' && isNumericHost rest.dropLast
  | cs => isHostName cs

/-- What stands before and after the first colon outside brackets. -/
def splitPort (inBrackets : Bool) : List Char → List Char × List Char
  | [] => ([], [])
  | c :: cs =>
    if c = ':' ∧ !inBrackets then ([], c :: cs)
    else
      let inside := if c = '[' then true else if c = ']' then false else inBrackets
      let (host, rest) := splitPort inside cs
      (c :: host, rest)

end WebhookGuard.Address

import WebhookGuard.Bytes
import WebhookGuard.Error
import WebhookGuard.Text.Split

/-
  Disks. A place on a disk is the list of names that leads to it, and a path is how a place is
  written. There are two ways to follow a path: the disk's own, which visits every place named on
  the way, and one by names alone, which takes two points for one name less without looking whether
  that name leads anywhere.
-/
namespace WebhookGuard

open WebhookGuard.Text

/-- The names that lead to a place from the root, the last one first. -/
abbrev Place := List Bytes

/-- What is found at a place. -/
inductive Node where
  | directory (isWritable : Bool)
  /-- A file that holds something other than a table. -/
  | document
  /-- A file that keeps nothing of what is written to it. -/
  | device
  /-- A file that holds a table. -/
  | table
deriving DecidableEq, Repr

/-- Whether other places can be reached through a node. -/
def Node.isDirectory : Node → Bool
  | directory _ => true
  | document | device | table => false

/-- What is found where on a disk. -/
structure Disk where
  /-- The place at which paths without a leading slash begin. -/
  start : Place := []
  nodes : List (Place × Node) := []
deriving DecidableEq, Repr

/-- The names in a path. -/
def pathNames (path : Bytes) : List Bytes :=
  (splitAt 0x2F path).filter (!·.isEmpty)

/-- The place that a path from the root names. -/
def Place.ofText (path : String) : Place := (pathNames (utf8 path)).reverse

/-- How long the path of a place is: each name and the slash in front of it. -/
def Place.size (place : Place) : Nat := (place.map fun name => name.length + 1).foldl (· + ·) 0

/-- The name of the place where one is. -/
def here : Bytes := utf8 "."

/-- The name of the place one up. -/
def above : Bytes := utf8 ".."

/-- The greatest length of a name. -/
def nameLimit : Nat := 255

namespace Disk

/-- What is found at a place. The root is always there. -/
def node? (d : Disk) : Place → Option Node
  | [] => some (.directory true)
  | place => d.nodes.lookup place

/-- Whether a place is a directory. -/
def isDirectory (d : Disk) (place : Place) : Bool :=
  (d.node? place).any Node.isDirectory

/-- Whether files can be made in a place. -/
def canCreateIn (d : Disk) (place : Place) : Bool :=
  d.node? place == some (.directory true)

/-- Where a path begins. -/
def origin (d : Disk) (path : Bytes) : Place :=
  if path.head? = some 0x2F then [] else d.start

/-- One name further, visiting the place. -/
def visit (d : Disk) (place : Place) (name : Bytes) : Except PathFault Place :=
  if !d.isDirectory place then .error .notDirectory
  else if name = here then .ok place
  else if name = above then .ok place.tail
  else if nameLimit < name.length then .error .nameTooLong
  else if (d.node? (name :: place)).isNone then .error .missing
  else .ok (name :: place)

/-- The place that a path leads to. A slash at the end asks for a directory. -/
def find (d : Disk) (path : Bytes) : Except PathFault Place :=
  if path.isEmpty then .error .missing
  else
    let last := if path.getLast? = some 0x2F then [here] else []
    (pathNames path ++ last).foldlM d.visit (d.origin path)

/-- The greatest length of a path that is followed by its names. -/
def pathLimit : Nat := 511

/-- One name further by the names alone. What is no directory cannot be led through, but what is
not there can. -/
def name? (d : Disk) (place : Place) (name : Bytes) : Option Place :=
  if name = here then some place
  else if name = above then some place.tail
  else if nameLimit < name.length ∨ pathLimit < Place.size (name :: place) then none
  else if (d.node? place).any (!·.isDirectory) then none
  else some (name :: place)

/-- The place that a path names. -/
def named? (d : Disk) (path : Bytes) : Option Place :=
  (pathNames path).foldlM d.name? (d.origin path)

end Disk

end WebhookGuard

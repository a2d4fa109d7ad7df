import WebhookGuard.Disk
import WebhookGuard.Event
import WebhookGuard.TableFile.Location

/-
  Opening a table. A table without a file always opens, and one in a file opens where the file is or
  can be made. Whether it can be written, and whether its journal has a place beside it, shows only
  when the table is set up.
-/
namespace WebhookGuard.TableFile

open WebhookGuard.Text

/-- How the driver of a table keeps it. -/
inductive Driver where
  | files
  | memory
deriving DecidableEq, Repr

/-- The driver of a name. -/
def Driver.ofName? (name : Bytes) : Option Driver :=
  let names := ["unix", "unix-none", "unix-dotfile", "unix-excl"].map fun name => (name, files)
  (("memdb", memory) :: names).lookup (ofUtf8Lossy name)

/-- The greatest length of the path of a file beside which a journal can stand. -/
def pathLimit : Nat := 504

/-- The greatest length of the name of such a file. -/
def nameLimit : Nat := 247

/-- The greatest length of the name of a table in memory. -/
def memoryNameLimit : Nat := 1016

namespace Location

/-- Whether the table is kept in memory or in a file without a name. -/
def isFileless (l : Location) : Bool :=
  l.path.isEmpty || l.path == utf8 ":memory:" || l.access == .memory

/-- Whether the table cannot be written. -/
def isReadOnly (l : Location) : Bool :=
  l.access == .read || l.isOn "immutable"

/-- Opens the table of a place, written as `text`: what is wrong with it, if anything is. -/
def placeFault? (l : Location) (d : Disk) (place : Place) (text : String) : Option TableFault :=
  match d.node? place with
  | some (.directory _) => some (if l.access = .read then .notReadable else .notOpened text)
  | some .document => some .notTable
  | some .device => some (if l.isReadOnly then .notWritable else .notReadable)
  | some .table => none
  | none =>
    if l.access ≠ .create ∨ !d.canCreateIn place.tail then some (.notOpened text)
    else if l.isOn "immutable" then some .notWritable
    else if place.head?.any fun name => nameLimit < name.length then some .noJournal
    else none

/-- Opens the file of a table: its place. -/
def openFile (l : Location) (d : Disk) (text : String) : Except TableFault Place :=
  match d.named? l.path with
  | none | some [] => .error (.notOpened text)
  | some place =>
    if pathLimit < place.size then .error (.notOpened text)
    else if (l.parameter? "modeof").any fun path => !(d.find path).isOk then .error .notReadable
    else
      match l.placeFault? d place text with
      | some fault => .error fault
      | none => .ok place

/-- Opens a table that a driver keeps in memory. -/
def openMemory (l : Location) (text : String) : Except TableFault Unit :=
  if memoryNameLimit < l.path.length then .error (.notOpened text)
  else if l.isReadOnly then .error .notWritable
  else .ok ()

/-- Opens the table at a location: the place of its file, if it has one. -/
def openOn (l : Location) (d : Disk) (text : String) : Except TableFault (Option Place) :=
  match (l.driver.map Driver.ofName?).getD (some .files) with
  | none => .error (.noSuchDriver (ofUtf8Lossy (l.driver.getD [])))
  | some driver =>
    if l.isFileless then
      if l.access = .read then .error .notWritable else .ok none
    else
      match driver with
      | .memory => (l.openMemory text).map fun _ => none
      | .files => (l.openFile d text).map some

end Location

/-- Opens the table at a location as it is written: the disk afterwards. -/
def openOn (d : Disk) (text : String) : Except TableFault Disk := do
  match ← (← Location.ofText text).openOn d text with
  | none => return d
  | some place => return { d with nodes := (place, .table) :: d.nodes }

/-- What is reported when a table was opened. Others are kept from its file by the path as it is
written, and that may lead nowhere although the table is open. -/
def openingEvents (d : Disk) (text : String) : List Event :=
  if text = ":memory:" then []
  else
    match d.find (utf8 text) with
    | .ok _ => []
    | .error fault => [.fileShared text fault]

end WebhookGuard.TableFile

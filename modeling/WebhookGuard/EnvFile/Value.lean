import WebhookGuard.Text.Alphanumeric

/-
  Values in an environment file. A value ends at a blank outside quotes; after that only blanks and
  a comment may follow. Single quotes keep everything as it is. Outside them a backslash writes a
  quote, a backslash, a dollar sign, a blank or a line feed, and a dollar sign refers to a variable:
  by the letters and numbers that follow, or by what stands between braces.
-/
namespace WebhookGuard.EnvFile

open WebhookGuard.Text

/-- The reference to a variable that is being read. -/
inductive Reference where
  | none
  /-- Without braces, by the name so far. -/
  | bare (name : List Char)
  /-- Between braces, by the name so far. -/
  | braced (name : List Char)
deriving DecidableEq, Repr

/-- How far the reading of a value has come. -/
structure Reading where
  /-- What has been read, the last character first. -/
  out : List Char := []
  single : Bool := false
  double : Bool := false
  escaped : Bool := false
  /-- A blank has ended the value. -/
  ended : Bool := false
  /-- A comment has begun. -/
  commented : Bool := false
  reference : Reference := .none
deriving DecidableEq, Repr

namespace Reading

/-- The reading with one more character of the value. -/
def push (r : Reading) (c : Char) : Reading := { r with out := c :: r.out }

/-- The reading with the value of a variable in it; the name is the last character first. -/
def refer (r : Reading) (valueOf : String → String) (name : List Char) : Reading :=
  { r with
    out := (valueOf (String.ofList name.reverse)).toList.reverse ++ r.out
    reference := .none }

/-- Reads a character after a backslash. -/
def readEscaped (r : Reading) (c : Char) : Option Reading :=
  let r := { r with escaped := false }
  if c ∈ ['\\', '\'', '"', '$', ' '] then some (r.push c)
  else if c = 'n' then some (r.push '\n')
  else none

/-- Reads a character of a reference without braces. -/
def readBare (r : Reading) (valueOf : String → String) (name : List Char) (c : Char) : Reading :=
  if isAlphanumeric c then { r with reference := .bare (c :: name) }
  else if c = '\x7b' ∧ name.isEmpty then { r with reference := .braced [] }
  else if c = '$' then { r.refer valueOf name with reference := .bare [] }
  else (r.refer valueOf name).push c

/-- Reads a character of a reference between braces. -/
def readBraced (r : Reading) (valueOf : String → String) (name : List Char) (c : Char) : Reading :=
  if c = '\x7d' then r.refer valueOf name
  else { r with reference := .braced (c :: name) }

/-- Reads a character that belongs to no reference and follows no backslash. -/
def readPlain (r : Reading) (c : Char) : Reading :=
  if c = '$' then { r with reference := .bare [] }
  else if r.double then
    if c = '"' then { r with double := false }
    else if c = '\\' then { r with escaped := true }
    else r.push c
  else if c = '\'' then { r with single := true }
  else if c = '"' then { r with double := true }
  else if c = '\\' then { r with escaped := true }
  else if c = ' ' ∨ c = '\t' then { r with ended := true }
  else r.push c

/-- Reads one character; nothing when it must not stand there. -/
def step (r : Reading) (valueOf : String → String) (c : Char) : Option Reading :=
  if r.commented then some r
  else if r.ended then
    if c = ' ' ∨ c = '\t' then some r
    else if c = '#' then some { r with commented := true }
    else none
  else if r.escaped then r.readEscaped c
  else if r.single then some (if c = '\'' then { r with single := false } else r.push c)
  else
    match r.reference with
    | .bare name => some (r.readBare valueOf name c)
    | .braced name => some (r.readBraced valueOf name c)
    | .none => some (r.readPlain c)

/-- The value once everything has been read; nothing when a quote or a brace is open. -/
def finish (r : Reading) (valueOf : String → String) : Option String :=
  if r.single ∨ r.double then none
  else
    match r.reference with
    | .braced _ => none
    | .bare name => some (String.ofList (r.refer valueOf name).out.reverse)
    | .none => some (String.ofList r.out.reverse)

end Reading

/-- Reads the remaining characters of a value. -/
def readValue (valueOf : String → String) (r : Reading) : List Char → Option String
  | [] => r.finish valueOf
  | c :: cs => (r.step valueOf c).bind fun r => readValue valueOf r cs

end WebhookGuard.EnvFile

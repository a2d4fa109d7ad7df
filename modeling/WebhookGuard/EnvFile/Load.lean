import WebhookGuard.EnvFile.Line
import WebhookGuard.EnvFile.Value
import WebhookGuard.Settings.Variable
import WebhookGuard.Text.Opening

/-
  Loading an environment file. Its lines assign values to variables; a variable that is already
  set, even to a blank value, keeps its value, so the first assignment in a file counts. Loading
  stops at the first line that is no assignment, and keeps what came before.
-/
namespace WebhookGuard.EnvFile

open WebhookGuard.Text

/-- The variables of a process. -/
abbrev Environment := List (String × String)

/-- A variable with the value that a file gives it. -/
structure Assignment where
  name : String
  value : String
deriving DecidableEq, Repr

/-- The state of loading: the variables that are set, and what the file said so far. -/
structure Loading where
  environment : Environment
  assigned : Environment := []

/-- The text by which a process holds a variable. -/
def entry (name value : String) : List Char := name.toList ++ '=' :: value.toList

/-- What a process finds under a name. It compares the name and an equals sign with the start of
each entry, so a name that holds an equals sign itself finds the end of a value. Nothing stands
under the empty name. -/
def find? (environment : Environment) (name : String) : Option String :=
  if name.isEmpty then none
  else
    environment.findSome? fun (held, value) =>
      (after? (entry name "") (entry held value)).map String.ofList

/-- What a reference to a variable stands for: its value, or else what the file gave it last. -/
def Loading.valueOf (l : Loading) (name : String) : String :=
  ((find? l.environment name).or (l.assigned.lookup name)).getD ""

/-- The name at the start of a line, and what follows it. -/
def name? : List Char → Option (String × List Char)
  | [] => none
  | c :: cs =>
    if c.isAlpha || c == '_' then
      let inName (c : Char) : Bool := c.isAlphanum || c == '_' || c == '.'
      some (String.ofList ((c :: cs).takeWhile inName), (c :: cs).dropWhile inName)
    else none

/-- What follows an equals sign. -/
def equals? : List Char → Option (List Char)
  | '=' :: cs => some cs
  | _ => none

/-- The name that a line assigns to, and what follows the equals sign. The word `export` may stand
in front of the name. -/
def target? (cs : List Char) : Option (String × List Char) := do
  let (name, rest) ← name? cs
  let rest := skipBlanks rest
  match equals? rest with
  | some value => return (name, value)
  | none =>
    if name = "export" then
      let (name, rest) ← name? rest
      return (name, ← equals? (skipBlanks rest))
    else none

/-- A text without the blanks at its end. -/
def trimEnd (cs : List Char) : List Char := (skipBlanks cs.reverse).reverse

/-- What a line says. -/
inductive Content where
  | nothing
  | assignment (assignment : Assignment)
  | malformed
deriving DecidableEq, Repr

/-- Reads a line. -/
def content (valueOf : String → String) (line : List Char) : Content :=
  let cs := skipBlanks (trimEnd line)
  if cs.isEmpty ∨ cs.head? = some '#' then .nothing
  else
    match target? cs with
    | none => .malformed
    | some (name, rest) =>
      let written := skipBlanks rest
      if written.head? = some '#' then .assignment ⟨name, ""⟩
      else
        match readValue valueOf {} written with
        | some value => .assignment ⟨name, value⟩
        | none => .malformed

/-- Takes an assignment into account: it sets a variable that has no value yet. -/
def Loading.assign (l : Loading) (a : Assignment) : Loading :=
  { environment :=
      match l.environment.lookup a.name with
      | some _ => l.environment
      | none => l.environment ++ [(a.name, a.value)]
    assigned := (a.name, a.value) :: l.assigned }

/-- Loads the remaining lines. -/
def Loading.run (l : Loading) : List (Option (List Char)) → Loading
  | [] => l
  | none :: _ => l
  | some line :: rest =>
    match content l.valueOf line with
    | .nothing => l.run rest
    | .assignment a => (l.assign a).run rest
    | .malformed => l

/-- The variables of a process once a file has been loaded. -/
def load (environment : Environment) (file : String) : Environment :=
  (Loading.run { environment } (lines file)).environment

/-- The source of variables that a process has. -/
def source (environment : Environment) : Source := fun name => environment.lookup name

end WebhookGuard.EnvFile

/-
  Named choices. Settings and answers spell a choice by a fixed name; reading accepts exactly the
  names of the choices and reports the whole list when it meets another.
-/
namespace WebhookGuard.Text

/-- Kinds with finitely many values, each known by a name of its own. -/
class Named (α : Type) where
  /-- The values, in the order in which they are listed to a reader. -/
  all : List α
  /-- The name of a value. -/
  name : α → String

/-- A name that no value of the kind has, and the names that would have done. -/
structure UnknownName where
  given : String
  expected : List String
deriving DecidableEq, Repr

/-- A name between backticks. -/
def ticked (s : String) : String :=
  "`" ++ s ++ "`"

/-- Two names are joined by "or", a longer list is spelled out. -/
def UnknownName.message (e : UnknownName) : String :=
  let options := match e.expected with
    | [] => "there are no variants"
    | [a] => "expected " ++ ticked a
    | [a, b] => "expected " ++ ticked a ++ " or " ++ ticked b
    | names => "expected one of " ++ ", ".intercalate (names.map ticked)
  "unknown variant " ++ ticked e.given ++ ", " ++ options

/-- The value with exactly this name. -/
def Named.ofName? {α : Type} [Named α] (s : String) : Option α :=
  (all : List α).find? fun a => name a == s

/-- The value with exactly this name, or the complaint that there is none. -/
def Named.read {α : Type} [Named α] (s : String) : Except UnknownName α :=
  match (Named.ofName? s : Option α) with
  | some a => .ok a
  | none => .error ⟨s, (all : List α).map name⟩

end WebhookGuard.Text

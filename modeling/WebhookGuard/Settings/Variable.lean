import WebhookGuard.Error
import WebhookGuard.Text.Blank
import WebhookGuard.Text.Numeral

/-
  Reading single variables. A variable that is blank counts as unset. Numbers and flags are
  trimmed before they are read; the complaint about a number shows the variable as it is, the
  complaint about a flag shows it trimmed.
-/
namespace WebhookGuard

open WebhookGuard.Text

/-- Where variables come from: the value of a name, if it is set. -/
abbrev Source := String → Option String

namespace Source

/-- The value of a variable that is set and not blank. -/
def value? (source : Source) (name : String) : Option String :=
  (source name).filter fun value => !isBlank value

/-- The first of several variables that is set and not blank. -/
def firstValue? (source : Source) (names : List String) : Option String :=
  names.findSome? source.value?

/-- A whole number from zero to `limit`, if the variable is set. -/
def count? (source : Source) (name : String) (limit : Nat) : Except ConfigError (Option Nat) :=
  match source.value? name with
  | none => .ok none
  | some raw =>
    match Text.count? limit (trim raw).toList with
    | some n => .ok (some n)
    | none => .error (.invalidValue name raw)

/-- The spellings of a flag that is on. -/
def spellingsOn : List String := ["1", "true", "TRUE", "True", "yes"]

/-- The spellings of a flag that is off. -/
def spellingsOff : List String := ["0", "false", "FALSE", "False", "no"]

/-- A flag, off unless the variable is set. -/
def flag (source : Source) (name : String) : Except ConfigError Bool :=
  match source.value? name with
  | none => .ok false
  | some raw =>
    let spelled := trim raw
    if spelled ∈ spellingsOn then .ok true
    else if spelled ∈ spellingsOff then .ok false
    else .error (.invalidValue name spelled)

end Source

end WebhookGuard

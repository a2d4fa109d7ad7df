/-
  Decimal numbers in settings and addresses. A plus sign may stand in front, and, where negative
  numbers have a meaning, a minus sign; leading zeros do not matter.
-/
namespace WebhookGuard.Text

/-- The number that one or more decimal digits write. -/
def digits? (cs : List Char) : Option Nat :=
  if cs.isEmpty then none
  else if cs.all Char.isDigit then some (cs.foldl (fun n c => 10 * n + (c.toNat - 48)) 0)
  else none

/-- A number from zero to `limit`. -/
def count? (limit : Nat) (cs : List Char) : Option Nat :=
  let digits := match cs with
    | '+' :: rest => rest
    | cs => cs
  (digits? digits).filter fun n => n ≤ limit

/-- A number that a signed word of sixty-four bits holds. -/
def integer? (cs : List Char) : Option Int :=
  match cs with
  | '-' :: rest => ((digits? rest).filter fun n => n ≤ 9223372036854775808).map fun n => -(n : Int)
  | cs => (count? 9223372036854775807 cs).map Int.ofNat

end WebhookGuard.Text

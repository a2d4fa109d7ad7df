import WebhookGuard.Time.Instant

/-
  Numeric timestamps. A number of up to twelve digits counts seconds, one of thirteen or more
  counts milliseconds; leading zeros are digits, the sign is not. Only what fits a signed word of
  sixty-four bits and the calendar is an instant.
-/
namespace WebhookGuard.Timestamp

/-- From this many digits on, a number counts milliseconds. -/
def millisDigits : Nat := 13

/-- The number that decimal digits write. -/
def digitsValue (digits : List Char) : Nat :=
  digits.foldl (fun n c => 10 * n + (c.toNat - 48)) 0

/-- One or more characters, all of them decimal digits. -/
def isNumeral (cs : List Char) : Bool :=
  !cs.isEmpty && cs.all Char.isDigit

/-- A number as it is written: a sign and its digits. -/
structure Numeral where
  negative : Bool
  digits : List Char
deriving DecidableEq, Repr

namespace Numeral

/-- Reads an optional minus sign and one or more digits. -/
def ofChars? : List Char → Option Numeral
  | '-' :: ds => if isNumeral ds then some ⟨true, ds⟩ else none
  | ds => if isNumeral ds then some ⟨false, ds⟩ else none

/-- The number that is written. -/
def value (n : Numeral) : Int :=
  if n.negative then -(digitsValue n.digits : Int) else digitsValue n.digits

/-- A number fits when a signed word of sixty-four bits holds it. -/
def Fits (n : Numeral) : Prop := 
  -9223372036854775808 ≤ n.value ∧ n.value < 9223372036854775808

instance (n : Numeral) : Decidable n.Fits := inferInstanceAs (Decidable (_ ∧ _))

/-- The instant that a number stands for, by the unit that its digit count selects. -/
def instant? (n : Numeral) : Option Instant :=
  if n.Fits then
    if millisDigits ≤ n.digits.length then Instant.ofMillis? n.value
    else Instant.ofSecs? n.value
  else none

end Numeral

/-- Plain Unix seconds: one to twelve digits and nothing else. -/
def strict? (cs : List Char) : Option Instant :=
  if isNumeral cs ∧ cs.length < millisDigits then Instant.ofSecs? (digitsValue cs) else none

end WebhookGuard.Timestamp

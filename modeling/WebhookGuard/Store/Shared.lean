/-
  Shared values. A value that several hold is there until the last of them lets go of it. A weak
  reference remembers the value without holding it: who has one gets hold of the value only while
  somebody else holds it.
-/
namespace WebhookGuard

/-- A weak reference. It names one of the values that were shared one after the other. -/
structure Weak where
  number : Nat
deriving DecidableEq, Repr

/-- A shared value. -/
structure Shared (α : Type) where
  value : α
  number : Nat := 0
  /-- How many hold it. -/
  holders : Nat
deriving DecidableEq, Repr

namespace Shared

variable {α : Type}

/-- Whether the value is still there. -/
def isHeld (s : Shared α) : Bool := decide (0 < s.holders)

/-- A weak reference to the value. -/
def weaken (s : Shared α) : Weak := ⟨s.number⟩

/-- Gets hold of the value through a weak reference, if it is that value and still there. -/
def upgrade? (s : Shared α) (w : Weak) : Option (Shared α) :=
  if w = s.weaken ∧ s.isHeld then some { s with holders := s.holders + 1 } else none

/-- So many let go of the value. -/
def release (s : Shared α) (count : Nat) : Shared α := { s with holders := s.holders - count }

/-- Another value with the same content in the hands of one. -/
def renew (s : Shared α) : Shared α where
  value := s.value
  number := s.number + 1
  holders := 1

end Shared

end WebhookGuard

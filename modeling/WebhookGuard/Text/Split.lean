/-
  Cutting a list at a separator, at every occurrence of it or at the first alone.
-/
namespace WebhookGuard.Text

variable {α : Type} [DecidableEq α]

/-- The parts between the occurrences of a separator. -/
def splitAt (separator : α) : List α → List (List α)
  | [] => [[]]
  | c :: cs =>
    if c = separator then [] :: splitAt separator cs
    else
      match splitAt separator cs with
      | part :: parts => (c :: part) :: parts
      | [] => [[c]]

/-- What stands before and after the first separator. -/
def splitFirst (separator : α) (cs : List α) : List α × List α :=
  (cs.takeWhile (· ≠ separator), (cs.dropWhile (· ≠ separator)).drop 1)

theorem splitAt_ne_nil (separator : α) (cs : List α) : splitAt separator cs ≠ [] := by
  cases cs with
  | nil => simp [splitAt]
  | cons c cs =>
    rw [splitAt]
    split
    · simp
    · split <;> simp

/-- The parts, with the separator between them, make up the list. -/
theorem intercalate_splitAt (separator : α) (cs : List α) :
    [separator].intercalate (splitAt separator cs) = cs := by
  induction cs with
  | nil => simp [splitAt]
  | cons c cs ih =>
    rw [splitAt]
    split
    · subst_vars
      cases h : splitAt c cs with
      | nil => exact absurd h (splitAt_ne_nil c cs)
      | cons part parts => rw [h] at ih; simp [← ih, List.intercalate]
    · cases h : splitAt separator cs with
      | nil => exact absurd h (splitAt_ne_nil separator cs)
      | cons part parts =>
        rw [h] at ih
        cases parts with
        | nil => simp_all [List.intercalate]
        | cons q qs => simp_all [List.intercalate]

end WebhookGuard.Text

/-
  Openings. Many of the forms read here open with a fixed text, and what follows it is what counts.
-/
namespace WebhookGuard.Text

variable {α : Type} [BEq α]

/-- What follows an opening, where there is one. -/
def after? : List α → List α → Option (List α)
  | [], rest => some rest
  | _ :: _, [] => none
  | o :: opening, c :: rest => if o == c then after? opening rest else none

@[simp]
theorem after?_nil (rest : List α) : after? [] rest = some rest := by cases rest <;> rfl

/-- What follows an opening is what it was put in front of. -/
theorem after?_append [LawfulBEq α] (opening rest : List α) :
    after? opening (opening ++ rest) = some rest := by
  induction opening with
  | nil => simp
  | cons o opening ih => simp [after?, ih]

theorem eq_append_of_after? [LawfulBEq α] {opening cs rest : List α}
    (h : after? opening cs = some rest) : cs = opening ++ rest := by
  induction opening generalizing cs with
  | nil =>
    rw [after?_nil] at h
    exact Option.some.inj h
  | cons o opening ih =>
    cases cs with
    | nil => cases h
    | cons c cs =>
      rw [after?, Option.ite_none_right_eq_some, beq_iff_eq] at h
      rw [h.1, ih h.2, List.cons_append]

end WebhookGuard.Text

import WebhookGuard.Proofs.Timestamp.Accepted
import WebhookGuard.Text.Ascii
import WebhookGuard.Text.Numeral

/-
  Texts between white space. Trimming takes away the longest run of white space at either end
  (`toList_trim_eq_iff`). So a reader that trims what it gets takes exactly the texts of its form that
  may have white space around them, provided that no text of the form begins or ends with any
  (`padded_iff`). Numbers are of such a form: an optional plus sign and digits, without regard to
  leading zeros, up to a limit (`count?_eq_some_iff`).
-/
namespace WebhookGuard.Text

open Timestamp (IsBlanks EndsBlanks IsSolid skipBlanks_eq_iff)

/-! ## Trimming -/

/-- White space may stand before and after a text of the form. -/
def Padded (form : List Char → Prop) (raw : String) : Prop :=
  ∃ front core back, raw.toList = front ++ (core ++ back) ∧ IsBlanks front ∧ IsBlanks back ∧
    form core

/-- Neither the first nor the last character is white space. -/
def IsTrimmed (cs : List Char) : Prop := EndsBlanks cs ∧ EndsBlanks cs.reverse

theorem isTrimmed_of_isSolid {cs : List Char} (h : IsSolid cs) : IsTrimmed cs := by
  constructor
  · intro c hc
    exact h c (List.mem_of_mem_head? hc)
  · intro c hc
    exact h c (List.mem_reverse.mp (List.mem_of_mem_head? hc))

theorem isBlanks_reverse {cs : List Char} : IsBlanks cs.reverse ↔ IsBlanks cs := by
  unfold IsBlanks
  rw [List.all_reverse]

/-- What comes first in a text that is not empty comes first in whatever it begins. -/
theorem endsBlanks_append {cs : List Char} (h : EndsBlanks cs) (hne : cs ≠ []) (ds : List Char) :
    EndsBlanks (cs ++ ds) := by
  obtain ⟨c, cs, rfl⟩ := List.exists_cons_of_ne_nil hne
  exact h

theorem endsBlanks_of_append {cs ds : List Char} (h : EndsBlanks (cs ++ ds)) : EndsBlanks cs := by
  cases cs with
  | nil => exact nofun
  | cons c cs => exact h

theorem toList_trim (s : String) :
    (trim s).toList = (skipBlanks (skipBlanks s.toList).reverse).reverse :=
  String.toList_ofList

/-- Trimming leaves what neither begins nor ends with white space, and takes nothing else. -/
theorem toList_trim_eq_iff {s : String} {core : List Char} :
    (trim s).toList = core ↔ IsTrimmed core ∧
      ∃ front back, s.toList = front ++ (core ++ back) ∧ IsBlanks front ∧ IsBlanks back := by
  rw [toList_trim, List.reverse_eq_iff]
  constructor
  · intro h
    obtain ⟨front, hs, hfront, hmiddle⟩ := skipBlanks_eq_iff.mp (rfl : skipBlanks s.toList = _)
    obtain ⟨back, hback, hblanks, hcore⟩ := skipBlanks_eq_iff.mp h
    have hmiddle' : skipBlanks s.toList = core ++ back.reverse := by
      rw [← List.reverse_inj, hback, List.reverse_append, List.reverse_reverse]
    rw [hmiddle'] at hs hmiddle
    exact ⟨⟨endsBlanks_of_append hmiddle, hcore⟩, front, back.reverse, hs, hfront,
      isBlanks_reverse.mpr hblanks⟩
  · rintro ⟨⟨hfirst, hlast⟩, front, back, hs, hfront, hback⟩
    refine skipBlanks_eq_iff.mpr ?_
    by_cases hcore : core = []
    · -- Nothing is left of the text, which is white space from end to end.
      have hall : s.toList.all isBlankChar = true := by
        rw [hs, hcore, List.nil_append, List.all_append, hfront, hback]
        rfl
      rw [skipBlanks_of_all hall, hcore]
      exact ⟨[], rfl, rfl, nofun⟩
    · have hmiddle : skipBlanks s.toList = core ++ back :=
        skipBlanks_eq_iff.mpr ⟨front, hs, hfront, endsBlanks_append hfirst hcore back⟩
      rw [hmiddle, List.reverse_append]
      exact ⟨back.reverse, rfl, isBlanks_reverse.mpr hback, hlast⟩

/-- Trimming leads from the padded texts of a form to the texts of the form. -/
theorem padded_iff {form : List Char → Prop} (hform : ∀ core, form core → IsTrimmed core)
    (raw : String) : Padded form raw ↔ form (trim raw).toList := by
  constructor
  · rintro ⟨front, core, back, hraw, hfront, hback, hcore⟩
    rw [toList_trim_eq_iff.mpr ⟨hform core hcore, front, back, hraw, hfront, hback⟩]
    exact hcore
  · intro h
    obtain ⟨-, front, back, hraw, hfront, hback⟩ :=
      toList_trim_eq_iff.mp (rfl : (trim raw).toList = _)
    exact ⟨front, _, back, hraw, hfront, hback, h⟩

/-! ## Numbers -/

/-- An optional plus sign and one or more digits that write a number up to a limit. -/
def IsCount (limit n : Nat) (cs : List Char) : Prop :=
  ∃ sign ds, cs = sign ++ ds ∧ (sign = [] ∨ sign = ['+']) ∧ ds ≠ [] ∧
    ds.all Char.isDigit = true ∧ Nat.ofDigitChars 10 ds 0 = n ∧ n ≤ limit

theorem IsCount.isTrimmed {limit n : Nat} {cs : List Char} (h : IsCount limit n cs) :
    IsTrimmed cs := by
  obtain ⟨sign, ds, rfl, hsign, -, hdigits, -⟩ := h
  have hplus : isBlankChar '+' = false := by decide
  have hdigits' : IsSolid ds := Timestamp.isSolid_of_isDigit hdigits
  refine isTrimmed_of_isSolid ?_
  rcases hsign with rfl | rfl <;> simp [hplus, hdigits']

theorem digits?_eq_some_iff {cs : List Char} {n : Nat} :
    digits? cs = some n ↔
      cs ≠ [] ∧ cs.all Char.isDigit = true ∧ Nat.ofDigitChars 10 cs 0 = n := by
  unfold digits?
  by_cases hcs : cs = []
  · simp [hcs]
  · rw [if_neg (by simpa using hcs), Option.ite_none_right_eq_some, Option.some.injEq,
      Nat.ofDigitChars_eq_foldl]
    exact ⟨fun h => ⟨hcs, h⟩, And.right⟩

theorem count?_eq_some_iff {limit n : Nat} {cs : List Char} :
    count? limit cs = some n ↔ IsCount limit n cs := by
  unfold count? IsCount
  rw [Option.filter_eq_some_iff, digits?_eq_some_iff]
  simp only [decide_eq_true_eq]
  split
  · next rest =>
    constructor
    · rintro ⟨⟨hne, hdigits, hvalue⟩, hle⟩
      exact ⟨['+'], rest, rfl, Or.inr rfl, hne, hdigits, hvalue, hle⟩
    · rintro ⟨sign, ds, hcs, rfl | rfl, hne, hdigits, hvalue, hle⟩
      · -- A plus sign is no digit.
        obtain rfl : '+' :: rest = ds := hcs
        exact absurd hdigits (by simp [Char.isDigit])
      · obtain rfl : rest = ds := (List.cons.inj hcs).2
        exact ⟨⟨hne, hdigits, hvalue⟩, hle⟩
  · next hplus =>
    constructor
    · rintro ⟨⟨hne, hdigits, hvalue⟩, hle⟩
      exact ⟨[], cs, rfl, Or.inl rfl, hne, hdigits, hvalue, hle⟩
    · rintro ⟨sign, ds, rfl, rfl | rfl, hne, hdigits, hvalue, hle⟩
      · exact ⟨⟨hne, hdigits, hvalue⟩, hle⟩
      · exact absurd rfl (hplus ds)

end WebhookGuard.Text

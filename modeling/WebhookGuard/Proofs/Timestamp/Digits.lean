import Mathlib.Algebra.Group.Nat.Defs
import WebhookGuard.Proofs.Timestamp.Blank
import WebhookGuard.Proofs.Timestamp.Numeral
import WebhookGuard.Time.Duration

/-
  Digits written and read. A number is written in decimal digits, with its full width or with none
  to spare, and the digits that are written stand for the number (`digitsValue_fixedNumeral`,
  `digitsValue_toDigits`). Digits at the start of a text are taken up to a limit, and nothing is lost
  (`takeDigits_append_eq`); all of them are taken where the limit or another character ends them
  (`takeDigits_append`).
-/
namespace WebhookGuard.Timestamp

open WebhookGuard.Duration (fixedNumeral)

/-! ## Writing -/

theorem digitsValue_eq (ds : List Char) : digitsValue ds = Nat.ofDigitChars 10 ds 0 :=
  Nat.ofDigitChars_eq_foldl.symm

theorem digitsValue_toDigits (n : Nat) : digitsValue (Nat.toDigits 10 n) = n := by
  rw [digitsValue_eq, Nat.ofDigitChars_ten_toDigits]

theorem all_isDigit_toDigits (n : Nat) : (Nat.toDigits 10 n).all Char.isDigit = true :=
  List.all_eq_true.mpr fun _ hc => Nat.isDigit_of_mem_toDigits (by decide) (by decide) hc

theorem isNumeral_toDigits (n : Nat) : isNumeral (Nat.toDigits 10 n) = true :=
  isNumeral_iff.mpr ⟨Nat.toDigits_ne_nil, all_isDigit_toDigits n⟩

/-- Leading zeros do not count. -/
theorem digitsValue_fixedNumeral (width n : Nat) : digitsValue (fixedNumeral width n) = n := by
  unfold fixedNumeral
  rw [digitsValue_eq, Nat.ofDigitChars_append, Nat.ofDigitChars_replicate_zero, Nat.mul_zero,
    Nat.ofDigitChars_ten_toDigits]

theorem all_isDigit_fixedNumeral (width n : Nat) :
    (fixedNumeral width n).all Char.isDigit = true := by
  unfold fixedNumeral
  rw [List.all_append, all_isDigit_toDigits, Bool.and_true, List.all_replicate]
  simp [Char.isDigit]

/-- A number that fits the width has exactly this many digits. -/
theorem length_fixedNumeral {width n : Nat} (hw : 0 < width) (h : n < 10 ^ width) :
    (fixedNumeral width n).length = width := by
  have hlen := (Nat.length_toDigits_le_iff (by decide : 1 < 10) hw).mpr h
  unfold fixedNumeral
  rw [List.length_append, List.length_replicate]
  omega

/-! ## Reading -/

theorem takeDigits_append_eq (max : Nat) (cs : List Char) :
    (takeDigits max cs).1 ++ (takeDigits max cs).2 = cs := by
  induction max generalizing cs with
  | zero => rfl
  | succ max ih =>
    cases cs with
    | nil => rfl
    | cons c cs =>
      cases hc : c.isDigit with
      | false => simp [takeDigits, hc]
      | true => simpa [takeDigits, hc] using ih cs

/-- Where no digit follows, all digits are taken, unless they are too many. -/
theorem takeDigits_append {max : Nat} {ds rest : List Char} (hds : ds.all Char.isDigit = true)
    (hmax : ds.length ≤ max) (hrest : ds.length = max ∨ ∀ c ∈ rest.head?, c.isDigit = false) :
    takeDigits max (ds ++ rest) = (ds, rest) := by
  induction ds generalizing max with
  | nil =>
    cases max with
    | zero => rfl
    | succ max =>
      cases rest with
      | nil => rfl
      | cons c rest =>
        have hc : c.isDigit = false := by simpa using hrest
        simp [takeDigits, hc]
  | cons d ds ih =>
    rw [List.all_cons, Bool.and_eq_true] at hds
    cases max with
    | zero => simp at hmax
    | succ max =>
      rw [List.length_cons] at hmax hrest
      have hih := ih hds.2 (Nat.le_of_succ_le_succ hmax) (hrest.imp_left Nat.succ.inj)
      rw [List.cons_append, takeDigits, if_pos hds.1, hih]

/-- A short number is the digits that are taken, if there are any. -/
theorem shortNumber?_eq_some_iff {max k : Nat} {cs rest : List Char} :
    shortNumber? max cs = some (k, rest) ↔
      ∃ ds, takeDigits max cs = (ds, rest) ∧ ds ≠ [] ∧ digitsValue ds = k := by
  unfold shortNumber?
  obtain ⟨ds, after⟩ := takeDigits max cs
  cases ds with
  | nil => simp
  | cons d ds =>
    simp only [List.isEmpty_cons, Bool.false_eq_true, if_false, Option.some.injEq, Prod.mk.injEq]
    constructor
    · rintro ⟨rfl, rfl⟩
      exact ⟨_, ⟨rfl, rfl⟩, List.cons_ne_nil _ _, rfl⟩
    · rintro ⟨_, ⟨rfl, rfl⟩, -, rfl⟩
      exact ⟨rfl, rfl⟩

/-- A number of full width is the digits that are taken, if they are as many. -/
theorem fixedNumber?_eq_some_iff {width k : Nat} {cs rest : List Char} :
    fixedNumber? width cs = some (k, rest) ↔
      ∃ ds, takeDigits width cs = (ds, rest) ∧ ds.length = width ∧ digitsValue ds = k := by
  unfold fixedNumber?
  obtain ⟨ds, after⟩ := takeDigits width cs
  simp only [Option.ite_none_right_eq_some, Option.some.injEq, Prod.mk.injEq]
  constructor
  · rintro ⟨hlen, rfl, rfl⟩
    exact ⟨_, ⟨rfl, rfl⟩, hlen, rfl⟩
  · rintro ⟨_, ⟨rfl, rfl⟩, hlen, rfl⟩
    exact ⟨hlen, rfl, rfl⟩

theorem skipBlanks_of_isDigit {c : Char} (hc : c.isDigit = true) (cs : List Char) :
    Text.skipBlanks (c :: cs) = c :: cs := by
  have hblank : Text.isBlankChar c = false := by
    refine Bool.eq_false_iff.mpr fun h => ?_
    rw [isDigit_of_isBlankChar h] at hc
    exact Bool.noConfusion hc
  unfold Text.skipBlanks
  rw [List.dropWhile_cons, hblank]
  rfl

/-- A year that opens with a digit has no sign. -/
theorem year?_of_isDigit {c : Char} (hc : c.isDigit = true) (cs : List Char) :
    year? (c :: cs) = (shortNumber? 4 (c :: cs)).map fun p => ((p.1 : Int), p.2) := by
  unfold year?
  split
  · next heq =>
    obtain ⟨rfl, -⟩ := List.cons.inj heq
    exact absurd hc (by decide)
  · next heq =>
    obtain ⟨rfl, -⟩ := List.cons.inj heq
    exact absurd hc (by decide)
  · rfl

end WebhookGuard.Timestamp

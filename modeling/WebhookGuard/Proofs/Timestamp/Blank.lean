import WebhookGuard.Timestamp.Read

/-
  Blank timestamps. White space is neither a digit nor a sign, and every layout of a calendar
  timestamp opens with the year. So a text of nothing but white space names no instant, under
  neither policy (`read?_of_isBlank`), although loose layouts allow blanks before the year.
-/
namespace WebhookGuard.Timestamp

open WebhookGuard.Text

theorem isDigit_of_isBlankChar {c : Char} (h : isBlankChar c = true) : c.isDigit = false := by
  unfold isBlankChar at h
  simp only [Bool.or_eq_true, Bool.and_eq_true, decide_eq_true_eq, beq_iff_eq] at h
  simp only [Char.isDigit, Bool.and_eq_false_iff, decide_eq_false_iff_not, UInt32.le_iff_toNat_le]
  change ¬ 48 ≤ c.toNat ∨ ¬ c.toNat ≤ 57
  omega

section Blank

variable {cs : List Char}

/-- No digits stand at the start of blanks. -/
theorem takeDigits_of_all (h : cs.all isBlankChar = true) (max : Nat) :
    takeDigits max cs = ([], cs) := by
  cases max with
  | zero => rfl
  | succ max =>
    cases cs with
    | nil => rfl
    | cons c cs =>
      rw [List.all_cons, Bool.and_eq_true] at h
      simp only [takeDigits, isDigit_of_isBlankChar h.1, Bool.false_eq_true, if_false]

theorem isNumeral_of_all (h : cs.all isBlankChar = true) : isNumeral cs = false := by
  cases cs with
  | nil => rfl
  | cons c cs =>
    rw [List.all_cons, Bool.and_eq_true] at h
    simp only [isNumeral, List.all_cons, isDigit_of_isBlankChar h.1, Bool.false_and, Bool.and_false]

/-- Blanks are no number. They do not begin with a minus sign either. -/
theorem Numeral.ofChars?_of_all (h : cs.all isBlankChar = true) : Numeral.ofChars? cs = none := by
  unfold Numeral.ofChars?
  split
  · rw [List.all_cons, Bool.and_eq_true] at h
    exact absurd h.1 (by decide)
  · rw [isNumeral_of_all h]
    rfl

/-- Every layout opens with the year. -/
theorem exists_year_of_mem_layouts {layout : Layout} (h : layout ∈ layouts) :
    ∃ items, layout = .fixedYear :: items ∨ layout = .year :: items := by
  have hall : ∀ layout ∈ layouts, layout.head? = some .fixedYear ∨ layout.head? = some .year := by
    decide
  cases layout with
  | nil => simpa using hall _ h
  | cons item items => exact ⟨items, by simpa using hall _ h⟩

/-- There is no year in blanks, at full width or not. -/
theorem instant?_of_all (h : cs.all isBlankChar = true) {layout : Layout} (hl : layout ∈ layouts) :
    layout.instant? cs = none := by
  have hfixed : Item.fixedYear.scan {} cs = none := by
    simp [Item.scan, fixedNumber?, takeDigits_of_all h]
  have hloose : Item.year.scan {} cs = none := by
    rw [Item.scan, skipBlanks_of_all h]
    rfl
  obtain ⟨items, rfl | rfl⟩ := exists_year_of_mem_layouts hl
  · rw [Layout.instant?, Layout.scan, hfixed]
    rfl
  · rw [Layout.instant?, Layout.scan, hloose]
    rfl

theorem calendar?_of_all (h : cs.all isBlankChar = true) : calendar? cs = none :=
  List.findSome?_eq_none_iff.mpr fun _ hl => instant?_of_all h hl

end Blank

/-- A blank timestamp names no instant. -/
theorem read?_of_isBlank {raw : String} (h : isBlank raw = true) (policy : TimestampPolicy) :
    read? policy raw = none := by
  unfold isBlank at h
  cases policy with
  | flexible => rw [read?, flexible?, Numeral.ofChars?_of_all h, calendar?_of_all h]
  | unixSecondsStrict =>
    unfold read? strict?
    rw [isNumeral_of_all h]
    rfl

end WebhookGuard.Timestamp

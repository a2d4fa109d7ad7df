import WebhookGuard.Proofs.Timestamp.Segments

/-
  Timestamps as they are documented. A documented timestamp is a number or a date of full width,
  mostly with a time of day and an offset (`IsDocumented`). The loose layouts take more: white space
  before a number or in an offset, none between the date and the time, numbers of fewer digits, and
  years with a sign. A text that a layout fits is documented if and only if the layout takes
  segments of documented form (`isIso_iff_of_fits`): a documented text is walked from the date to the
  offset, since what an item takes depends on what follows it.
-/
namespace WebhookGuard.Timestamp

open WebhookGuard.Text

/-! ## Documented forms -/

/-- Digits, or digits after a minus sign. -/
def IsNumber (cs : List Char) : Prop :=
  ∃ ds, ds ≠ [] ∧ ds.all Char.isDigit = true ∧ (cs = ds ∨ cs = '-' :: ds)

/-- `2025-09-15` -/
def IsDate (cs : List Char) : Prop :=
  ∃ year month day, cs = year ++ '-' :: (month ++ '-' :: day) ∧
    IsDigits 4 year ∧ IsDigits 2 month ∧ IsDigits 2 day

/-- `18:21` -/
def IsMinutes (cs : List Char) : Prop :=
  ∃ hour minute, cs = hour ++ ':' :: minute ∧ IsDigits 2 hour ∧ IsDigits 2 minute

/-- Nothing, or `.123` -/
def IsFraction (cs : List Char) : Prop :=
  cs = [] ∨ ∃ ds, cs = '.' :: ds ∧ ds ≠ [] ∧ ds.all Char.isDigit = true

/-- `:01`, or `:01.123` -/
def IsSeconds (cs : List Char) : Prop :=
  ∃ second fraction, cs = ':' :: (second ++ fraction) ∧ IsDigits 2 second ∧ IsFraction fraction

/-- `T18:21`, mostly with seconds, after one of the separators. -/
def IsTimeOfDay (cs : List Char) : Prop :=
  ∃ separator minutes seconds, cs = separator :: (minutes ++ seconds) ∧
    separator ∈ ['T', 't', ' '] ∧ IsMinutes minutes ∧ (seconds = [] ∨ IsSeconds seconds)

/-- `Z`, `+02:00` or `+0200` -/
def IsOffsetForm (cs : List Char) : Prop :=
  cs = ['Z'] ∨ cs = ['z'] ∨ ∃ sign hours colon minutes,
    cs = sign :: (hours ++ (colon ++ minutes)) ∧ sign ∈ signs ∧ IsDigits 2 hours ∧
      (colon = [] ∨ colon = [':']) ∧ IsDigits 2 minutes

/-- A date, then nothing or a time of day, then nothing or an offset. -/
def IsIso (cs : List Char) : Prop :=
  ∃ date time offset, cs = date ++ (time ++ offset) ∧ IsDate date ∧
    (time = [] ∨ IsTimeOfDay time) ∧ (offset = [] ∨ IsOffsetForm offset)

/-- A timestamp as it is documented. -/
def IsDocumented (raw : String) : Prop := IsNumber raw.toList ∨ IsIso raw.toList

/-- The documented form of a segment. -/
def Item.IsPlain (item : Item) (segment : List Char) : Prop :=
  match item with
  | .fixedYear | .year => IsDigits 4 segment
  | .fixed _ | .number _ => IsDigits 2 segment
  | .mark choices => ∃ c ∈ choices, segment = [c]
  | .blanks => segment = [' ']
  | .fraction => IsFraction segment
  | .zone | .offset => IsOffsetForm segment

/-- The segment that an item takes has its documented form. -/
def Item.TakesPlain (item : Item) (segment rest : List Char) : Prop :=
  item.Takes segment rest ∧ item.IsPlain segment

/-! ## The shape of the layouts -/

/-- A year of full width or a loose one. -/
def yearItem (full : Bool) : Item := if full then .fixedYear else .year

/-- A number of full width or a loose one. -/
def numberItem (full : Bool) (part : Part) : Item := if full then .fixed part else .number part

/-- The items of a date. -/
def dateItems (full : Bool) : Layout :=
  [yearItem full, .mark ['-'], numberItem full .month, .mark ['-'], numberItem full .day]

/-- The items of hours and minutes. -/
def minuteItems (full : Bool) : Layout :=
  [numberItem full .hour, .mark [':'], numberItem full .minute]

/-- The items of seconds. -/
def secondItems (full : Bool) : Layout :=
  [.mark [':'], numberItem full .second, .fraction]

/-- What separates the date from the time of day. -/
def IsSeparator (item : Item) : Prop :=
  item = .blanks ∨ ∃ choices, item = .mark choices ∧ choices ⊆ ['T', 't', ' ']

/-- What takes an offset. -/
def IsOffsetItem (item : Item) : Prop := item = .zone ∨ item = .offset

/-- What may follow hours and minutes. -/
def IsClockTail (full : Bool) (items : Layout) : Prop :=
  items = [] ∨ ∃ last, items = secondItems full ++ last ∧
    (last = [] ∨ ∃ item, IsOffsetItem item ∧ last = [item])

/-- What may follow a date. -/
def IsDateTail (full : Bool) (items : Layout) : Prop :=
  items = [] ∨ ∃ separator rest, items = separator :: (minuteItems full ++ rest) ∧
    IsSeparator separator ∧ IsClockTail full rest

theorem exists_dateItems_of_mem_layouts {layout : Layout} (h : layout ∈ layouts) :
    ∃ full items, layout = dateItems full ++ items ∧ IsDateTail full items := by
  have hmarkT : IsSeparator (.mark ['T']) := Or.inr ⟨_, rfl, by simp⟩
  have hmark : IsSeparator (.mark ['T', 't', ' ']) := Or.inr ⟨_, rfl, List.Subset.refl _⟩
  have hblanks : IsSeparator .blanks := Or.inl rfl
  have hoffset : IsClockTail false (secondItems false ++ [.offset]) :=
    Or.inr ⟨_, rfl, Or.inr ⟨.offset, Or.inr rfl, rfl⟩⟩
  have hplain : IsClockTail false (secondItems false) := Or.inr ⟨[], rfl, Or.inl rfl⟩
  simp only [layouts, List.mem_cons, List.not_mem_nil, or_false] at h
  rcases h with rfl | rfl | rfl | rfl | rfl | rfl | rfl
  · exact ⟨true, _, rfl, Or.inr ⟨_, secondItems true ++ [.zone], rfl, hmark,
      Or.inr ⟨_, rfl, Or.inr ⟨.zone, Or.inl rfl, rfl⟩⟩⟩⟩
  · exact ⟨false, _, rfl, Or.inr ⟨_, _, rfl, hmarkT, hoffset⟩⟩
  · exact ⟨false, _, rfl, Or.inr ⟨_, _, rfl, hblanks, hoffset⟩⟩
  · exact ⟨false, _, rfl, Or.inr ⟨_, _, rfl, hmarkT, hplain⟩⟩
  · exact ⟨false, _, rfl, Or.inr ⟨_, _, rfl, hblanks, hplain⟩⟩
  · exact ⟨false, _, rfl, Or.inr ⟨_, [], rfl, hmarkT, Or.inl rfl⟩⟩
  · exact ⟨false, [], rfl, Or.inl rfl⟩

/-! ## Segments of documented form -/

theorem yearItem_isPlain_iff {full : Bool} {segment : List Char} :
    (yearItem full).IsPlain segment ↔ IsDigits 4 segment := by
  cases full <;> exact Iff.rfl

theorem numberItem_isPlain_iff {full : Bool} {part : Part} {segment : List Char} :
    (numberItem full part).IsPlain segment ↔ IsDigits 2 segment := by
  cases full <;> exact Iff.rfl

theorem IsOffsetItem.isPlain_iff {item : Item} (h : IsOffsetItem item) {segment : List Char} :
    item.IsPlain segment ↔ IsOffsetForm segment := by
  rcases h with rfl | rfl <;> exact Iff.rfl

section Plain

variable {full : Bool} {items : Layout} {cs : List Char}

theorem exists_cons_of_fits_mark {takes : Item → List Char → List Char → Prop} {c : Char}
    (hmark : ∀ segment rest, takes (.mark [c]) segment rest → (Item.mark [c]).IsPlain segment)
    (h : Layout.Fits takes (.mark [c] :: items) cs) :
    ∃ rest, cs = c :: rest ∧ Layout.Fits takes items rest := by
  obtain ⟨segment, rest, rfl, hsegment, hfits⟩ := h
  obtain ⟨d, hd, rfl⟩ := hmark _ _ hsegment
  obtain rfl := List.mem_singleton.mp hd
  exact ⟨rest, rfl, hfits⟩

theorem exists_cons_of_fits_plain_mark {c : Char}
    (h : Layout.Fits Item.TakesPlain (.mark [c] :: items) cs) :
    ∃ rest, cs = c :: rest ∧ Layout.Fits Item.TakesPlain items rest :=
  exists_cons_of_fits_mark (fun _ _ => And.right) h

theorem exists_isDate_of_fits (h : Layout.Fits Item.TakesPlain (dateItems full ++ items) cs) :
    ∃ date rest, cs = date ++ rest ∧ IsDate date ∧ Layout.Fits Item.TakesPlain items rest := by
  obtain ⟨year, _, rfl, ⟨-, hyear⟩, h⟩ := h
  obtain ⟨_, rfl, month, _, rfl, ⟨-, hmonth⟩, h⟩ := exists_cons_of_fits_plain_mark h
  obtain ⟨_, rfl, day, rest, rfl, ⟨-, hday⟩, hfits⟩ := exists_cons_of_fits_plain_mark h
  exact ⟨year ++ '-' :: (month ++ '-' :: day), rest, by simp,
    ⟨year, month, day, rfl, yearItem_isPlain_iff.mp hyear, numberItem_isPlain_iff.mp hmonth,
      numberItem_isPlain_iff.mp hday⟩, hfits⟩

theorem exists_isMinutes_of_fits (h : Layout.Fits Item.TakesPlain (minuteItems full ++ items) cs) :
    ∃ minutes rest, cs = minutes ++ rest ∧ IsMinutes minutes ∧
      Layout.Fits Item.TakesPlain items rest := by
  obtain ⟨hour, _, rfl, ⟨-, hhour⟩, h⟩ := h
  obtain ⟨_, rfl, minute, rest, rfl, ⟨-, hminute⟩, hfits⟩ := exists_cons_of_fits_plain_mark h
  exact ⟨hour ++ ':' :: minute, rest, by simp,
    ⟨hour, minute, rfl, numberItem_isPlain_iff.mp hhour, numberItem_isPlain_iff.mp hminute⟩, hfits⟩

theorem exists_isSeconds_of_fits (h : Layout.Fits Item.TakesPlain (secondItems full ++ items) cs) :
    ∃ seconds rest, cs = seconds ++ rest ∧ IsSeconds seconds ∧
      Layout.Fits Item.TakesPlain items rest := by
  obtain ⟨_, rfl, second, _, rfl, ⟨-, hsecond⟩, fraction, rest, rfl, ⟨-, hfraction⟩, hfits⟩ :=
    exists_cons_of_fits_plain_mark h
  exact ⟨':' :: (second ++ fraction), rest, by simp,
    ⟨second, fraction, rfl, numberItem_isPlain_iff.mp hsecond, hfraction⟩, hfits⟩

end Plain

/-- A text whose segments have their documented forms is documented. -/
theorem isIso_of_fits {full : Bool} {items : Layout} {cs : List Char}
    (htail : IsDateTail full items) (h : Layout.Fits Item.TakesPlain (dateItems full ++ items) cs) : IsIso cs := by
  obtain ⟨date, afterDate, rfl, hdate, hitems⟩ := exists_isDate_of_fits h
  rcases htail with rfl | ⟨separator, items, rfl, hseparator, hclock⟩
  · obtain rfl : afterDate = [] := hitems
    exact ⟨date, [], [], rfl, hdate, Or.inl rfl, Or.inl rfl⟩
  · obtain ⟨segment, time, rfl, ⟨-, hsegment⟩, htime⟩ := hitems
    obtain ⟨c, hc, rfl⟩ : ∃ c ∈ ['T', 't', ' '], segment = [c] := by
      rcases hseparator with rfl | ⟨choices, rfl, hchoices⟩
      · exact ⟨' ', by simp, hsegment⟩
      · obtain ⟨c, hc, hsegment⟩ := hsegment
        exact ⟨c, hchoices hc, hsegment⟩
    obtain ⟨minutes, afterMinutes, rfl, hminutes, hrest⟩ := exists_isMinutes_of_fits htime
    rcases hclock with rfl | ⟨last, rfl, hlast⟩
    · obtain rfl : afterMinutes = [] := hrest
      exact ⟨date, c :: minutes, [], by simp, hdate,
        Or.inr ⟨c, minutes, [], by simp, hc, hminutes, Or.inl rfl⟩, Or.inl rfl⟩
    · obtain ⟨seconds, offset, rfl, hseconds, hend⟩ := exists_isSeconds_of_fits hrest
      have hoffset : offset = [] ∨ IsOffsetForm offset := by
        rcases hlast with rfl | ⟨item, hitem, rfl⟩
        · exact Or.inl hend
        · obtain ⟨_, _, rfl, ⟨-, hplain⟩, rfl⟩ := hend
          rw [List.append_nil]
          exact Or.inr (hitem.isPlain_iff.mp hplain)
      exact ⟨date, c :: (minutes ++ seconds), offset, by simp, hdate,
        Or.inr ⟨c, minutes, seconds, rfl, hc, hminutes, Or.inr hseconds⟩, hoffset⟩

/-! ## Documented forms taken -/

theorem IsDigits.takesDigits {n : Nat} {ds : List Char} (h : IsDigits n ds) (hn : 0 < n)
    (rest : List Char) : TakesDigits n ds rest where
  ne_nil hnil := by
    obtain ⟨hlen, -⟩ := h
    rw [hnil, List.length_nil] at hlen
    omega
  digits := h.2
  length_le := Nat.le_of_eq h.1
  ends := Or.inl h.1

theorem IsDigits.exists_cons {n : Nat} {ds : List Char} (h : IsDigits n ds) (hn : 0 < n) :
    ∃ d tail, ds = d :: tail ∧ d.isDigit = true := by
  obtain ⟨d, tail, rfl⟩ := List.exists_cons_of_ne_nil (h.takesDigits hn []).ne_nil
  exact ⟨d, tail, rfl, List.all_eq_true.mp h.2 _ List.mem_cons_self⟩

theorem yearItem_takesPlain {full : Bool} {year : List Char} (h : IsDigits 4 year)
    (rest : List Char) : (yearItem full).TakesPlain year rest := by
  refine ⟨?_, yearItem_isPlain_iff.mpr h⟩
  cases full with
  | true => exact h
  | false => exact ⟨[], year, rfl, rfl, Or.inl (h.takesDigits (by decide) rest)⟩

theorem numberItem_takesPlain {full : Bool} {part : Part} {ds : List Char} (h : IsDigits 2 ds)
    (rest : List Char) : (numberItem full part).TakesPlain ds rest := by
  refine ⟨?_, numberItem_isPlain_iff.mpr h⟩
  cases full with
  | true => exact h
  | false => exact ⟨[], ds, rfl, rfl, h.takesDigits (by decide) rest⟩

theorem mark_takesPlain {choices : List Char} {c : Char} (h : c ∈ choices) (rest : List Char) :
    (Item.mark choices).TakesPlain [c] rest :=
  ⟨⟨c, h, rfl⟩, c, h, rfl⟩

/-- What may open an offset is no digit, no white space and none of the marks before it. -/
theorem not_mark_of_opens {c : Char} (h : c ∈ 'Z' :: 'z' :: signs) :
    c.isDigit = false ∧ isBlankChar c = false ∧ c ∉ ['T', 't', ' '] ∧ c ≠ '.' ∧ c ≠ ':' := by
  simp only [signs, List.mem_cons, List.not_mem_nil, or_false] at h
  rcases h with rfl | rfl | rfl | rfl | rfl <;> decide

theorem IsOffsetForm.exists_cons {offset : List Char} (h : IsOffsetForm offset) :
    ∃ c tail, offset = c :: tail ∧ c ∈ 'Z' :: 'z' :: signs := by
  rcases h with rfl | rfl | ⟨sign, hours, colon, minutes, rfl, hsign, -⟩
  · exact ⟨'Z', [], rfl, by decide⟩
  · exact ⟨'z', [], rfl, by decide⟩
  · exact ⟨sign, _, rfl, List.mem_cons_of_mem _ (List.mem_cons_of_mem _ hsign)⟩

/-- A separator that is no letter is a space. -/
theorem eq_space_of_mem_separators {c : Char} (h : c ∈ ['T', 't', ' '])
    (hopens : c.isDigit = true ∨ isBlankChar c = true) : c = ' ' := by
  simp only [List.mem_cons, List.not_mem_nil, or_false] at h
  rcases h with rfl | rfl | rfl
  · exact absurd hopens (by decide)
  · exact absurd hopens (by decide)
  · rfl

/-- A fraction ends before an offset, which opens neither with a point nor with a digit. -/
theorem fraction_takesPlain {fraction offset : List Char} (h : IsFraction fraction)
    (hoffset : offset = [] ∨ IsOffsetForm offset) : Item.fraction.TakesPlain fraction offset := by
  have hhead : ∀ c ∈ offset.head?, c ∈ 'Z' :: 'z' :: signs := by
    intro c hc
    rcases hoffset with rfl | hoffset
    · cases hc
    · obtain ⟨d, tail, rfl, hd⟩ := hoffset.exists_cons
      obtain rfl := Option.some.inj hc
      exact hd
  refine ⟨?_, h⟩
  rcases h with rfl | ⟨ds, rfl, hne, hall⟩
  · refine Or.inl ⟨rfl, fun hpoint => ?_⟩
    obtain ⟨-, -, -, hne, -⟩ := not_mark_of_opens (hhead '.' hpoint)
    exact hne rfl
  · refine Or.inr ⟨ds, rfl, hne, hall, fun c hc => ?_⟩
    exact (not_mark_of_opens (hhead c hc)).1

theorem IsMinutes.endsBlanks {minutes : List Char} (h : IsMinutes minutes) (rest : List Char) :
    EndsBlanks (minutes ++ rest) := by
  obtain ⟨hour, minute, rfl, hhour, -⟩ := h
  rw [List.append_assoc]
  exact (hhour.takesDigits (by decide) _).endsBlanks

/-- A number opens with a digit or with white space. -/
theorem exists_cons_of_numberItem_takes {full : Bool} {part : Part} {segment rest : List Char}
    (h : (numberItem full part).Takes segment rest) :
    ∃ c tail, segment = c :: tail ∧ (c.isDigit = true ∨ isBlankChar c = true) := by
  cases full with
  | true =>
    obtain ⟨d, tail, hds, hd⟩ := IsDigits.exists_cons h (by decide)
    exact ⟨d, tail, hds, Or.inl hd⟩
  | false =>
    obtain ⟨blanks, ds, rfl, hblanks, hds⟩ := h
    cases blanks with
    | nil =>
      obtain ⟨d, tail, rfl⟩ := List.exists_cons_of_ne_nil hds.ne_nil
      exact ⟨d, tail, rfl, Or.inl (List.all_eq_true.mp hds.digits _ List.mem_cons_self)⟩
    | cons b blanks =>
      exact ⟨b, blanks ++ ds, rfl, Or.inr (List.all_eq_true.mp hblanks _ List.mem_cons_self)⟩

/-- Nothing is no offset. -/
theorem ne_nil_of_fits_offset {item : Item} {cs : List Char} (hitem : IsOffsetItem item)
    (h : Layout.Fits Item.Takes [item] cs) : cs ≠ [] := by
  rintro rfl
  obtain ⟨segment, rest, hnil, htakes, -⟩ := h
  obtain ⟨rfl, rfl⟩ := List.append_eq_nil_iff.mp hnil.symm
  have hoffset : ∀ middle, ¬ IsOffset middle [] := by
    rintro middle ⟨_, _, _, _, hcs, -⟩
    cases hcs
  rcases hitem with rfl | rfl
  · obtain h | h | h := htakes
    · cases h
    · cases h
    · exact hoffset _ h
  · obtain ⟨blanks, offset, hcs, -, h⟩ := htakes
    obtain ⟨-, rfl⟩ := List.append_eq_nil_iff.mp hcs.symm
    exact hoffset _ h

section Takes

variable {full : Bool} {items : Layout} {rest : List Char}

/-- A layout is fitted plainly from a plain segment on, if it is from the next one on. -/
theorem fits_plain_cons {item : Item} {segment : List Char} (hplain : item.TakesPlain segment rest)
    (hrest : Layout.Fits Item.Takes items rest → Layout.Fits Item.TakesPlain items rest)
    (h : Layout.Fits Item.Takes (item :: items) (segment ++ rest)) :
    Layout.Fits Item.TakesPlain (item :: items) (segment ++ rest) :=
  ⟨segment, rest, rfl, hplain, hrest (h.tail hplain.1)⟩

/-- A documented date is taken as such, whatever follows it. -/
theorem fits_plain_date {date : List Char} (hdate : IsDate date)
    (hrest : Layout.Fits Item.Takes items rest → Layout.Fits Item.TakesPlain items rest)
    (h : Layout.Fits Item.Takes (dateItems full ++ items) (date ++ rest)) :
    Layout.Fits Item.TakesPlain (dateItems full ++ items) (date ++ rest) := by
  obtain ⟨year, month, day, rfl, hyear, hmonth, hday⟩ := hdate
  have hhyphen : '-' ∈ ['-'] := List.mem_singleton_self _
  simp only [List.append_assoc, List.cons_append] at h ⊢
  refine fits_plain_cons (yearItem_takesPlain hyear _) ?_ h
  refine fits_plain_cons (mark_takesPlain hhyphen _) ?_
  refine fits_plain_cons (numberItem_takesPlain hmonth _) ?_
  refine fits_plain_cons (mark_takesPlain hhyphen _) ?_
  exact fits_plain_cons (numberItem_takesPlain hday _) hrest

theorem fits_plain_minutes {minutes : List Char} (hminutes : IsMinutes minutes)
    (hrest : Layout.Fits Item.Takes items rest → Layout.Fits Item.TakesPlain items rest)
    (h : Layout.Fits Item.Takes (minuteItems full ++ items) (minutes ++ rest)) :
    Layout.Fits Item.TakesPlain (minuteItems full ++ items) (minutes ++ rest) := by
  obtain ⟨hour, minute, rfl, hhour, hminute⟩ := hminutes
  have hcolon : ':' ∈ [':'] := List.mem_singleton_self _
  simp only [List.append_assoc, List.cons_append] at h ⊢
  refine fits_plain_cons (numberItem_takesPlain hhour _) ?_ h
  refine fits_plain_cons (mark_takesPlain hcolon _) ?_
  exact fits_plain_cons (numberItem_takesPlain hminute _) hrest

theorem fits_plain_seconds {seconds : List Char} (hseconds : IsSeconds seconds)
    (hoffset : rest = [] ∨ IsOffsetForm rest)
    (hrest : Layout.Fits Item.Takes items rest → Layout.Fits Item.TakesPlain items rest)
    (h : Layout.Fits Item.Takes (secondItems full ++ items) (seconds ++ rest)) :
    Layout.Fits Item.TakesPlain (secondItems full ++ items) (seconds ++ rest) := by
  obtain ⟨second, fraction, rfl, hsecond, hfraction⟩ := hseconds
  have hcolon : ':' ∈ [':'] := List.mem_singleton_self _
  simp only [List.append_assoc, List.cons_append] at h ⊢
  refine fits_plain_cons (mark_takesPlain hcolon _) ?_ h
  refine fits_plain_cons (numberItem_takesPlain hsecond _) ?_
  exact fits_plain_cons (fraction_takesPlain hfraction hoffset) hrest

/-- White space before a number opens with white space or, where there is none, with a digit. -/
theorem exists_cons_of_fits_blanks {part : Part} {cs : List Char}
    (h : Layout.Fits Item.Takes (.blanks :: numberItem full part :: items) cs) :
    ∃ c tail, cs = c :: tail ∧ (c.isDigit = true ∨ isBlankChar c = true) := by
  obtain ⟨blanks, _, rfl, ⟨hblanks, -⟩, number, rest, rfl, hnumber, -⟩ := h
  cases blanks with
  | nil =>
    obtain ⟨c, tail, rfl, hc⟩ := exists_cons_of_numberItem_takes hnumber
    exact ⟨c, tail ++ rest, rfl, hc⟩
  | cons b blanks =>
    exact ⟨b, _, rfl, Or.inr (List.all_eq_true.mp hblanks _ List.mem_cons_self)⟩

/-- Where a layout goes on after the date, a documented text has a time of day: an offset opens like
no separator. -/
theorem isTimeOfDay_of_fits {separator : Item} {time offset : List Char}
    (hseparator : IsSeparator separator) (htime : time = [] ∨ IsTimeOfDay time)
    (hoffset : offset = [] ∨ IsOffsetForm offset)
    (h : Layout.Fits Item.Takes (separator :: (minuteItems full ++ items)) (time ++ offset)) :
    IsTimeOfDay time := by
  refine htime.resolve_left ?_
  rintro rfl
  obtain ⟨c, tail, hcs, hc⟩ : ∃ c tail, offset = c :: tail ∧
      (c ∈ ['T', 't', ' '] ∨ c.isDigit = true ∨ isBlankChar c = true) := by
    rcases hseparator with rfl | ⟨choices, rfl, hchoices⟩
    · obtain ⟨c, tail, hcs, hc⟩ := exists_cons_of_fits_blanks h
      exact ⟨c, tail, hcs, Or.inr hc⟩
    · obtain ⟨_, tail, hcs, ⟨c, hc, rfl⟩, -⟩ := h
      exact ⟨c, tail, hcs, Or.inl (hchoices hc)⟩
  obtain ⟨d, _, rfl, hd⟩ := (hoffset.resolve_left (by rw [hcs]; exact nofun)).exists_cons
  obtain ⟨rfl, -⟩ := List.cons.inj hcs
  obtain ⟨hdigit, hblank, hmark, -⟩ := not_mark_of_opens hd
  rw [hdigit, hblank] at hc
  exact hmark (hc.resolve_right (by decide))

/-- A separator takes the one character that separates a documented time of day from the date. -/
theorem separator_takesPlain {separator : Item} {c : Char} {minutes : List Char}
    (hseparator : IsSeparator separator) (hc : c ∈ ['T', 't', ' ']) (hminutes : IsMinutes minutes)
    (h : Layout.Fits Item.Takes (separator :: (minuteItems full ++ items))
      (c :: (minutes ++ rest))) :
    separator.TakesPlain [c] (minutes ++ rest) := by
  rcases hseparator with rfl | ⟨choices, rfl, -⟩
  · obtain ⟨_, _, hcs, hopens⟩ := exists_cons_of_fits_blanks h
    obtain ⟨rfl, -⟩ := List.cons.inj hcs
    obtain rfl := eq_space_of_mem_separators hc hopens
    exact ⟨⟨(by decide : [' '].all isBlankChar = true), hminutes.endsBlanks rest⟩, rfl⟩
  · obtain ⟨_, _, hcs, ⟨d, hd, rfl⟩, -⟩ := h
    obtain ⟨rfl, -⟩ := List.cons.inj hcs
    exact mark_takesPlain hd _

/-- Where a layout has seconds, a documented text has them: an offset does not open with a colon. -/
theorem isSeconds_of_fits {seconds offset : List Char} (hseconds : seconds = [] ∨ IsSeconds seconds)
    (hoffset : offset = [] ∨ IsOffsetForm offset)
    (h : Layout.Fits Item.Takes (secondItems full ++ items) (seconds ++ offset)) :
    IsSeconds seconds := by
  refine hseconds.resolve_left ?_
  rintro rfl
  obtain ⟨_, rfl, -⟩ := exists_cons_of_fits_mark (fun _ _ => id) h
  obtain ⟨d, _, hcs, hd⟩ := (hoffset.resolve_left nofun).exists_cons
  obtain ⟨rfl, -⟩ := List.cons.inj hcs
  obtain ⟨-, -, -, -, hne⟩ := not_mark_of_opens hd
  exact hne rfl

end Takes

/-- A layout that fits a documented text takes segments of documented form. -/
theorem fits_of_isIso {full : Bool} {items : Layout} {cs : List Char}
    (htail : IsDateTail full items) (h : Layout.Fits Item.Takes (dateItems full ++ items) cs)
    (hiso : IsIso cs) : Layout.Fits Item.TakesPlain (dateItems full ++ items) cs := by
  obtain ⟨date, time, offset, rfl, hdate, htime, hoffset⟩ := hiso
  refine fits_plain_date hdate (fun hitems => ?_) h
  rcases htail with rfl | ⟨separator, rest, rfl, hseparator, hclock⟩
  · exact hitems
  · obtain ⟨c, minutes, seconds, rfl, hc, hminutes, hseconds⟩ :=
      isTimeOfDay_of_fits hseparator htime hoffset hitems
    simp only [List.cons_append, List.append_assoc] at hitems ⊢
    refine fits_plain_cons (separator_takesPlain hseparator hc hminutes hitems)
      (fits_plain_minutes hminutes fun hrest => ?_) hitems
    rcases hclock with rfl | ⟨last, rfl, hlast⟩
    · exact hrest
    · refine fits_plain_seconds (isSeconds_of_fits hseconds hoffset hrest) hoffset
        (fun hend => ?_) hrest
      rcases hlast with rfl | ⟨item, hitem, rfl⟩
      · exact hend
      · have hform := hoffset.resolve_left (ne_nil_of_fits_offset hitem hend)
        obtain ⟨segment, _, rfl, htakes, rfl⟩ := hend
        rw [List.append_nil] at hform
        exact ⟨segment, [], rfl, ⟨htakes, hitem.isPlain_iff.mpr hform⟩, rfl⟩

/-- A text that a layout fits is documented if and only if the layout takes segments of documented
form. -/
theorem isIso_iff_of_fits {layout : Layout} {cs : List Char} (hlayout : layout ∈ layouts)
    (h : layout.Fits Item.Takes cs) : IsIso cs ↔ layout.Fits Item.TakesPlain cs := by
  obtain ⟨full, items, rfl, htail⟩ := exists_dateItems_of_mem_layouts hlayout
  exact ⟨fits_of_isIso htail h, isIso_of_fits htail⟩

end WebhookGuard.Timestamp

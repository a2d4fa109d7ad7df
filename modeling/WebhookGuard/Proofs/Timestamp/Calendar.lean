import WebhookGuard.Proofs.Time.Instant
import WebhookGuard.Proofs.Timestamp.Stamp

/-
  Calendar timestamps read. Every stamp is read as the instant that it says, whatever its form
  (`stamps_read`). The first layout that fits decides (`calendar?_of_scan`), so besides the layout
  of a stamp the proof has to say of each earlier one that it does not fit: they part where the date
  and the time meet, at the seconds, or at the offset. A stamp is never taken for a number, since
  there are hyphens in its date (`Stamp.ofChars?_chars`).

  The days of an instant are the one count of days along the civil calendar (`Date.counts_iff`).
-/
namespace WebhookGuard.Timestamp

open WebhookGuard.Duration (fixedNumeral)
open WebhookGuard.Time

/-! ## Fields of a stamp -/

/-- The fields of a day. -/
def Day.fields (d : Day) : Fields :=
  { year := d.date.year, month := d.date.month, day := d.date.day }

/-- Fields with hours and minutes filled in. -/
def HourMinute.fill (t : HourMinute) (f : Fields) : Fields :=
  { f with hour := t.hour, minute := t.minute }

/-- Fields with a time of day filled in. -/
def Clock.fill (c : Clock) (f : Fields) : Fields :=
  { c.time.fill f with second := c.second, nanos := c.nanos }

/-- The fields of a day with a time of day. -/
def Day.fieldsOf (d : Day) (c : Clock) : Fields := c.fill d.fields

theorem Day.year_lt (d : Day) : d.date.year.toNat < 10 ^ 4 := by
  have hfirst := d.year_nonneg
  have hlast := d.year_le
  omega

theorem Day.month_lt (d : Day) : d.date.month < 10 ^ 2 :=
  Nat.lt_of_le_of_lt d.valid.2.1 (by decide)

theorem Day.day_lt (d : Day) : d.date.day < 10 ^ 2 := by
  have hday := d.valid.2.2.2
  have hmonth := daysInMonth_le d.date.year d.date.month
  omega

theorem Clock.second_lt_hundred (c : Clock) : c.second < 10 ^ 2 :=
  Nat.lt_trans c.second_lt (by decide)

theorem Day.toNat_year (d : Day) : (d.date.year.toNat : Int) = d.date.year :=
  Int.toNat_of_nonneg d.year_nonneg

/-- Local time is less than a day ahead of UTC, or behind it. -/
def WithinDay (ahead : Int) : Prop := -86400 < ahead ∧ ahead < 86400

theorem withinDay_zero : WithinDay 0 := ⟨by decide, by decide⟩

theorem Offset.withinDay_seconds (o : Offset) : WithinDay o.seconds := by
  have hhour := o.span.hour_lt
  have hminute := o.span.minute_lt
  unfold WithinDay seconds HourMinute.seconds
  split <;> omega

/-- A day of a year of four digits lies within the calendar, whatever the offset. -/
theorem Day.inRange_at (d : Day) (c : Clock) {ahead : Int} (h : WithinDay ahead) :
    (d.at c ahead).InRange := by
  obtain ⟨hbehind, hahead⟩ := h
  have hday := Date.dayNumber_bounds d.valid d.year_nonneg d.year_le
  have hhour := c.time.hour_lt
  have hminute := c.time.minute_lt
  have hsecond := c.second_lt
  unfold Instant.InRange Instant.firstSec Instant.lastSec
  simp only [Day.at, HourMinute.seconds]
  omega

/-- The fields of a stamp name the instant that it says. -/
theorem instant?_fieldsOf (d : Day) (c : Clock) {ahead : Int} (h : WithinDay ahead) :
    Fields.instant? { d.fieldsOf c with offset := ahead } = some (d.at c ahead) := by
  have hvalid : Fields.Valid { d.fieldsOf c with offset := ahead } := by
    have hyear := d.year_nonneg
    have hyear' := d.year_le
    refine ⟨d.valid, ?_, ?_, c.time.hour_lt, c.time.minute_lt, Nat.le_of_lt c.second_lt⟩
    · show (-262143 : Int) ≤ d.date.year
      omega
    · show d.date.year ≤ (262142 : Int)
      omega
  have hordinary : ¬ c.second = 60 := Nat.ne_of_lt c.second_lt
  have hsecond : min c.second 59 = c.second := Nat.min_eq_left (Nat.le_of_lt_succ c.second_lt)
  have hinstant : (⟨d.date.dayNumber * 86400 +
      ((c.time.hour * 3600 + c.time.minute * 60 + min c.second 59 : Nat) : Int) - ahead,
      c.nanos + 0⟩ : Instant) = d.at c ahead := by
    rw [hsecond]
    rfl
  unfold Fields.instant?
  rw [if_pos hvalid]
  show Instant.inRange? ⟨_, c.nanos + if c.second = 60 then Instant.nanosPerSec else 0⟩ = _
  rw [if_neg hordinary]
  exact Instant.inRange?_eq_some.mpr ⟨hinstant ▸ d.inRange_at c h, hinstant⟩

/-! ## Scanning a day and a time of day -/

theorem Layout.scan_cons (item : Item) (items : Layout) (f : Fields) (cs : List Char) :
    Layout.scan (item :: items) f cs = (item.scan f cs).bind fun p => scan items p.1 p.2 := by
  rw [Layout.scan]
  cases item.scan f cs <;> rfl

theorem Layout.instant?_of_scan {layout : Layout} {cs : List Char} {f : Option Fields}
    (h : layout.scan {} cs = f) : layout.instant? cs = f.bind Fields.instant? := by
  unfold Layout.instant?
  rw [h]

/-- The date of the internet profile. -/
def fixedDate : Layout := [.fixedYear, .mark ['-'], .fixed .month, .mark ['-'], .fixed .day]

/-- The hours and minutes of the internet profile. -/
def fixedMinutes : Layout := [.fixed .hour, .mark [':'], .fixed .minute]

/-- The time of day of the internet profile. -/
def fixedSeconds : Layout := fixedMinutes ++ [.mark [':'], .fixed .second, .fraction]

theorem internetLayout_eq :
    internetLayout = fixedDate ++ .mark ['T', 't', ' '] :: (fixedSeconds ++ [.zone]) := rfl

section Scan

variable (items : Layout) (d : Day) (t : HourMinute) (c : Clock) {f : Fields} {rest : List Char}

/-- A loose date takes the day. -/
theorem scan_looseDate :
    Layout.scan (looseDate ++ items) {} (d.chars ++ rest) = items.scan d.fields rest := by
  unfold looseDate Day.chars
  simp only [List.cons_append, List.nil_append, List.append_assoc, Layout.scan_cons,
    scan_year d.year_lt, scan_mark_self, scan_number d.month_lt, scan_number d.day_lt,
    Option.bind_some, d.toNat_year]
  rfl

/-- So does a date of full width. -/
theorem scan_fixedDate :
    Layout.scan (fixedDate ++ items) {} (d.chars ++ rest) = items.scan d.fields rest := by
  unfold fixedDate Day.chars
  simp only [List.cons_append, List.nil_append, List.append_assoc, Layout.scan_cons,
    scan_fixedYear d.year_lt, scan_mark_self, scan_fixed d.month_lt, scan_fixed d.day_lt,
    Option.bind_some, d.toNat_year]
  rfl

/-- Loose minutes take hours and minutes. -/
theorem scan_looseMinutes :
    Layout.scan (looseMinutes ++ items) f (t.chars ++ rest) =
      items.scan (t.fill f) rest := by
  unfold looseMinutes HourMinute.chars
  simp only [List.cons_append, List.nil_append, List.append_assoc, Layout.scan_cons,
    scan_number t.hour_lt_hundred, scan_mark_self, scan_number t.minute_lt_hundred,
    Option.bind_some]
  rfl

theorem scan_fixedMinutes :
    Layout.scan (fixedMinutes ++ items) f (t.chars ++ rest) =
      items.scan (t.fill f) rest := by
  unfold fixedMinutes HourMinute.chars
  simp only [List.cons_append, List.nil_append, List.append_assoc, Layout.scan_cons,
    scan_fixed t.hour_lt_hundred, scan_mark_self, scan_fixed t.minute_lt_hundred, Option.bind_some]
  rfl

/-- Loose seconds take the time of day with its decimals. -/
theorem scan_looseSeconds (h : EndsClock rest) :
    Layout.scan (looseSeconds ++ items) f (c.chars ++ rest) =
      items.scan (c.fill f) rest := by
  unfold looseSeconds Clock.chars
  simp only [List.append_assoc, scan_looseMinutes, List.cons_append, List.nil_append,
    Layout.scan_cons, scan_mark_self, scan_number c.second_lt_hundred, scan_fraction c h,
    Option.bind_some]
  rfl

theorem scan_fixedSeconds (h : EndsClock rest) :
    Layout.scan (fixedSeconds ++ items) f (c.chars ++ rest) =
      items.scan (c.fill f) rest := by
  unfold fixedSeconds Clock.chars
  simp only [List.append_assoc, scan_fixedMinutes, List.cons_append, List.nil_append,
    Layout.scan_cons, scan_mark_self, scan_fixed c.second_lt_hundred, scan_fraction c h,
    Option.bind_some]
  rfl

end Scan

/-! ## Layouts that fit -/

section Fit

variable (d : Day) (c : Clock) {rest : List Char}

/-- A layout with what separates the date from the time. -/
theorem scan_internet {separator : Char} (hs : ['T', 't', ' '].contains separator = true)
    (h : EndsClock rest) :
    internetLayout.scan {} (d.chars ++ separator :: (c.chars ++ rest)) =
      Layout.scan [.zone] (d.fieldsOf c) rest := by
  rw [internetLayout_eq, scan_fixedDate, Layout.scan_cons, scan_mark hs, Option.bind_some,
    scan_fixedSeconds _ c h]
  rfl

theorem scan_marked (items : Layout) (h : EndsClock rest) :
    Layout.scan (looseDate ++ [.mark ['T']] ++ looseSeconds ++ items) {}
      (d.chars ++ 'T' :: (c.chars ++ rest)) = items.scan (d.fieldsOf c) rest := by
  rw [List.append_assoc, List.append_assoc, scan_looseDate, List.singleton_append,
    Layout.scan_cons, scan_mark_self, Option.bind_some, scan_looseSeconds _ c h]
  rfl

theorem scan_spaced (items : Layout) (h : EndsClock rest) :
    Layout.scan (looseDate ++ [.blanks] ++ looseSeconds ++ items) {}
      (d.chars ++ ' ' :: (c.chars ++ rest)) = items.scan (d.fieldsOf c) rest := by
  have hblanks : Item.blanks.scan d.fields (' ' :: (c.chars ++ rest)) =
      some (d.fields, c.chars ++ rest) := by
    unfold Clock.chars HourMinute.chars
    simp only [List.append_assoc]
    exact scan_blanks c.time.hour_lt_hundred
  rw [List.append_assoc, List.append_assoc, scan_looseDate, List.singleton_append,
    Layout.scan_cons, hblanks, Option.bind_some, scan_looseSeconds _ c h]
  rfl

end Fit

/-! ## Layouts that do not fit -/

section Misfit

variable (d : Day) (c : Clock) (items : Layout) {rest : List Char}

/-- A letter is no blank. -/
theorem scan_marked_of_space :
    Layout.scan (looseDate ++ [.mark ['T']] ++ items) {} (d.chars ++ ' ' :: rest) = none := by
  rw [List.append_assoc, scan_looseDate, List.singleton_append, Layout.scan_cons,
    scan_mark_of_ne (by decide)]
  rfl

/-- Where the hours are looked for there is a letter. -/
theorem scan_spaced_of_letter :
    Layout.scan (looseDate ++ [.blanks] ++ looseSeconds ++ items) {} (d.chars ++ 'T' :: rest) =
      none := by
  rw [List.append_assoc, List.append_assoc, scan_looseDate]
  rfl

/-- Between hours and minutes of the profile's offset there is a colon. -/
theorem scan_internet_of_compact (o : Offset) {separator : Char}
    (hs : ['T', 't', ' '].contains separator = true) :
    internetLayout.scan {}
      (d.chars ++ separator :: (c.chars ++ o.sign :: (o.span.compactChars ++ rest))) = none := by
  rw [scan_internet d c hs (endsClock_sign o _), Layout.scan_cons, scan_zone_compact]
  rfl

/-- And nothing goes without an offset. -/
theorem scan_internet_of_end {separator : Char} (hs : ['T', 't', ' '].contains separator = true) :
    internetLayout.scan {} (d.chars ++ separator :: (c.chars ++ [])) = none := by
  rw [scan_internet d c hs endsClock_nil]
  rfl

/-- A date alone ends before the time. -/
theorem scan_marked_of_date :
    Layout.scan (looseDate ++ [.mark ['T']] ++ items) {} d.chars = none := by
  rw [← List.append_nil d.chars, List.append_assoc, scan_looseDate]
  rfl

theorem scan_spaced_of_date :
    Layout.scan (looseDate ++ [.blanks] ++ looseSeconds ++ items) {} d.chars = none := by
  rw [← List.append_nil d.chars, List.append_assoc, List.append_assoc, scan_looseDate]
  rfl

theorem scan_internet_of_date : internetLayout.scan {} d.chars = none := by
  rw [← List.append_nil d.chars, internetLayout_eq, scan_fixedDate]
  rfl

/-- Full minutes end before the seconds. -/
theorem scan_marked_of_minutes (t : HourMinute) :
    Layout.scan (looseDate ++ [.mark ['T']] ++ looseSeconds ++ items) {}
      (d.chars ++ 'T' :: t.chars) = none := by
  unfold looseSeconds
  rw [← List.append_nil t.chars, List.append_assoc, List.append_assoc, scan_looseDate,
    List.singleton_append, Layout.scan_cons, scan_mark_self, Option.bind_some, List.append_assoc,
    scan_looseMinutes]
  rfl

theorem scan_internet_of_minutes (t : HourMinute) :
    internetLayout.scan {} (d.chars ++ 'T' :: t.chars) = none := by
  rw [← List.append_nil t.chars, internetLayout_eq, scan_fixedDate, Layout.scan_cons,
    scan_mark (by decide), Option.bind_some]
  unfold fixedSeconds
  rw [List.append_assoc, scan_fixedMinutes]
  rfl

end Misfit

/-! ## Stamps read -/

section Stamps

variable (d : Day) (c : Clock) (o : Offset)

/-- The first layout that takes the fields of a stamp decides. -/
theorem calendar?_of_scan (earlier : List Layout) {layout : Layout} {later : List Layout}
    {cs : List Char} {ahead : Int} (hlayouts : layouts = earlier ++ layout :: later)
    (hmisfit : ∀ l ∈ earlier, l.scan {} cs = none) (hahead : WithinDay ahead)
    (hfit : layout.scan {} cs = some { d.fieldsOf c with offset := ahead }) :
    calendar? cs = some (d.at c ahead) := by
  have hnone : earlier.findSome? (fun layout => layout.instant? cs) = none :=
    List.findSome?_eq_none_iff.mpr fun l hl => Layout.instant?_of_scan (hmisfit l hl)
  have hsome : layout.instant? cs = some (d.at c ahead) := by
    rw [Layout.instant?_of_scan hfit, Option.bind_some, instant?_fieldsOf d c hahead]
  unfold calendar?
  rw [hlayouts, List.findSome?_append, hnone, List.findSome?_cons, hsome]
  rfl

theorem calendar?_zulu : calendar? (Stamp.zulu d c).chars = some (d.at c 0) := by
  have hchars : (Stamp.zulu d c).chars = d.chars ++ 'T' :: (c.chars ++ ['Z']) := by
    simp [Stamp.chars]
  refine calendar?_of_scan d c [] rfl (by simp) withinDay_zero ?_
  rw [hchars, scan_internet d c (by decide) endsClock_zulu]
  rfl

theorem calendar?_offset : calendar? (Stamp.offset d c o).chars = some (d.at c o.seconds) := by
  have hchars : (Stamp.offset d c o).chars =
      d.chars ++ 'T' :: (c.chars ++ o.sign :: (o.span.chars ++ [])) := by
    simp [Stamp.chars]
  refine calendar?_of_scan d c [] rfl (by simp) o.withinDay_seconds ?_
  rw [hchars, scan_internet d c (by decide) (endsClock_sign o _), Layout.scan_cons, scan_zone]
  rfl

theorem calendar?_compact : calendar? (Stamp.compact d c o).chars = some (d.at c o.seconds) := by
  have hchars : (Stamp.compact d c o).chars =
      d.chars ++ 'T' :: (c.chars ++ o.sign :: (o.span.compactChars ++ [])) := by
    simp [Stamp.chars]
  have hends : EndsClock (o.sign :: (o.span.compactChars ++ [])) := endsClock_sign o _
  have hinternet : internetLayout.scan {} (Stamp.compact d c o).chars = none := by
    rw [hchars, scan_internet_of_compact d c o (by decide)]
  refine calendar?_of_scan d c [internetLayout] rfl ?_ o.withinDay_seconds ?_
  · simpa using hinternet
  · rw [hchars, scan_marked d c _ hends, Layout.scan_cons, scan_offset]
    rfl

theorem calendar?_spacedCompact :
    calendar? (Stamp.spacedCompact d c o).chars = some (d.at c o.seconds) := by
  have hchars : (Stamp.spacedCompact d c o).chars =
      d.chars ++ ' ' :: (c.chars ++ o.sign :: (o.span.compactChars ++ [])) := by
    simp [Stamp.chars]
  have hends : EndsClock (o.sign :: (o.span.compactChars ++ [])) := endsClock_sign o _
  have hinternet : internetLayout.scan {} (Stamp.spacedCompact d c o).chars = none := by
    rw [hchars, scan_internet_of_compact d c o (by decide)]
  have hmarked : ∀ items, Layout.scan (looseDate ++ [.mark ['T']] ++ items) {}
      (Stamp.spacedCompact d c o).chars = none := by
    intro items
    rw [hchars, scan_marked_of_space]
  refine calendar?_of_scan d c
    [internetLayout, looseDate ++ [.mark ['T']] ++ (looseSeconds ++ [.offset])] rfl ?_
    o.withinDay_seconds ?_
  · simp only [List.forall_mem_cons]
    exact ⟨hinternet, hmarked _, List.forall_mem_nil _⟩
  · rw [hchars, scan_spaced d c _ hends, Layout.scan_cons, scan_offset]
    rfl

theorem calendar?_plain : calendar? (Stamp.plain d c).chars = some (d.at c 0) := by
  have hchars : (Stamp.plain d c).chars = d.chars ++ 'T' :: (c.chars ++ []) := by
    simp [Stamp.chars]
  have hinternet : internetLayout.scan {} (Stamp.plain d c).chars = none := by
    rw [hchars, scan_internet_of_end d c (by decide)]
  have hmarked : ∀ items, Layout.scan (looseDate ++ [.mark ['T']] ++ looseSeconds ++ items) {}
      (Stamp.plain d c).chars = items.scan (d.fieldsOf c) [] := by
    intro items
    rw [hchars, scan_marked d c _ endsClock_nil]
  have hspaced : ∀ items, Layout.scan (looseDate ++ [.blanks] ++ looseSeconds ++ items) {}
      (Stamp.plain d c).chars = none := by
    intro items
    rw [hchars, scan_spaced_of_letter]
  -- for no further items `hmarked` is about the layout that fits, for the offset about one that
  -- misses it
  refine calendar?_of_scan d c
    [internetLayout, looseDate ++ [.mark ['T']] ++ looseSeconds ++ [.offset],
      looseDate ++ [.blanks] ++ looseSeconds ++ [.offset]] rfl ?_ withinDay_zero (hmarked [])
  simp only [List.forall_mem_cons]
  exact ⟨hinternet, hmarked _, hspaced _, List.forall_mem_nil _⟩

theorem calendar?_spacedPlain : calendar? (Stamp.spacedPlain d c).chars = some (d.at c 0) := by
  have hchars : (Stamp.spacedPlain d c).chars = d.chars ++ ' ' :: (c.chars ++ []) := by
    simp [Stamp.chars]
  have hinternet : internetLayout.scan {} (Stamp.spacedPlain d c).chars = none := by
    rw [hchars, scan_internet_of_end d c (by decide)]
  have hmarked : ∀ items, Layout.scan (looseDate ++ [.mark ['T']] ++ items) {}
      (Stamp.spacedPlain d c).chars = none := by
    intro items
    rw [hchars, scan_marked_of_space]
  have hspaced : ∀ items, Layout.scan (looseDate ++ [.blanks] ++ looseSeconds ++ items) {}
      (Stamp.spacedPlain d c).chars = items.scan (d.fieldsOf c) [] := by
    intro items
    rw [hchars, scan_spaced d c _ endsClock_nil]
  refine calendar?_of_scan d c
    [internetLayout, looseDate ++ [.mark ['T']] ++ (looseSeconds ++ [.offset]),
      looseDate ++ [.blanks] ++ looseSeconds ++ [.offset],
      looseDate ++ [.mark ['T']] ++ looseSeconds] rfl ?_ withinDay_zero (hspaced [])
  simp only [List.forall_mem_cons]
  exact ⟨hinternet, hmarked _, hspaced _, hmarked _, List.forall_mem_nil _⟩

theorem calendar?_minutes (t : HourMinute) :
    calendar? (Stamp.minutes d t).chars = some (d.at (.ofMinutes t) 0) := by
  have hmarked : ∀ items, Layout.scan (looseDate ++ [.mark ['T']] ++ looseSeconds ++ items) {}
      (Stamp.minutes d t).chars = none := fun items => scan_marked_of_minutes d items t
  have hspaced : ∀ items, Layout.scan (looseDate ++ [.blanks] ++ looseSeconds ++ items) {}
      (Stamp.minutes d t).chars = none := fun items => scan_spaced_of_letter d items
  have hfits : Layout.scan (looseDate ++ ([.mark ['T']] ++ looseMinutes)) {}
      (d.chars ++ 'T' :: (t.chars ++ [])) = some (d.fieldsOf (.ofMinutes t)) := by
    rw [scan_looseDate, List.singleton_append, Layout.scan_cons, scan_mark_self, Option.bind_some,
      ← List.append_nil looseMinutes, scan_looseMinutes]
    rfl
  refine calendar?_of_scan d (.ofMinutes t)
    [internetLayout, looseDate ++ [.mark ['T']] ++ looseSeconds ++ [.offset],
      looseDate ++ [.blanks] ++ looseSeconds ++ [.offset],
      looseDate ++ [.mark ['T']] ++ looseSeconds, looseDate ++ [.blanks] ++ looseSeconds]
    rfl ?_ withinDay_zero ?_
  · simp only [List.forall_mem_cons]
    exact ⟨scan_internet_of_minutes d t, hmarked _, hspaced _, hmarked [], hspaced [],
      List.forall_mem_nil _⟩
  · rw [List.append_nil] at hfits
    exact hfits

theorem calendar?_dateOnly : calendar? (Stamp.dateOnly d).chars = some (d.at .midnight 0) := by
  have hfits : Layout.scan (looseDate ++ []) {} (d.chars ++ []) = some (d.fieldsOf .midnight) := by
    rw [scan_looseDate]
    rfl
  rw [List.append_nil, List.append_nil] at hfits
  refine calendar?_of_scan d .midnight layouts.dropLast rfl ?_ withinDay_zero hfits
  show ∀ l ∈ [internetLayout, looseDate ++ [.mark ['T']] ++ (looseSeconds ++ [.offset]),
      looseDate ++ [.blanks] ++ looseSeconds ++ [.offset],
      looseDate ++ [.mark ['T']] ++ looseSeconds, looseDate ++ [.blanks] ++ looseSeconds ++ [],
      looseDate ++ [.mark ['T']] ++ looseMinutes], l.scan {} d.chars = none
  simp only [List.forall_mem_cons]
  exact ⟨scan_internet_of_date d, scan_marked_of_date d _, scan_spaced_of_date d _,
    scan_marked_of_date d _, scan_spaced_of_date d _, scan_marked_of_date d _,
    List.forall_mem_nil _⟩

/-- A stamp is no number, since there are hyphens in its date. -/
theorem ofChars?_day (rest : List Char) : Numeral.ofChars? (d.chars ++ rest) = none := by
  obtain ⟨digit, digits, hyear, hdigit⟩ :=
    exists_fixedNumeral_eq_cons (by decide : 0 < 4) d.year_lt
  have hhyphen : '-' ∈ d.chars ++ rest := by simp [Day.chars]
  have hnumeral : isNumeral (d.chars ++ rest) = false := by
    refine Bool.eq_false_iff.mpr fun h => ?_
    have hall := List.all_eq_true.mp (isNumeral_iff.mp h).2 '-' hhyphen
    exact absurd hall (by decide)
  unfold Numeral.ofChars?
  split
  · next heq =>
    simp only [Day.chars, hyear, List.cons_append, List.cons.injEq] at heq
    obtain ⟨rfl, -⟩ := heq
    exact absurd hdigit (by decide)
  · rw [hnumeral]
    rfl

end Stamps

/-- Every stamp starts with its day. -/
theorem Stamp.exists_day (s : Stamp) :
    ∃ (d : Day) (rest : List Char), s.chars = d.chars ++ rest := by
  cases s with
  | zulu d c => exact ⟨d, _, List.append_assoc ..⟩
  | offset d c o => exact ⟨d, _, List.append_assoc ..⟩
  | compact d c o => exact ⟨d, _, List.append_assoc ..⟩
  | spacedCompact d c o => exact ⟨d, _, List.append_assoc ..⟩
  | plain d c => exact ⟨d, _, rfl⟩
  | spacedPlain d c => exact ⟨d, _, rfl⟩
  | minutes d t => exact ⟨d, _, rfl⟩
  | dateOnly d => exact ⟨d, [], (List.append_nil _).symm⟩

theorem Stamp.ofChars?_chars (s : Stamp) : Numeral.ofChars? s.chars = none := by
  obtain ⟨d, rest, hchars⟩ := s.exists_day
  rw [hchars, ofChars?_day]

theorem Stamp.calendar?_chars (s : Stamp) : calendar? s.chars = some s.instant := by
  cases s with
  | zulu d c => exact calendar?_zulu d c
  | offset d c o => exact calendar?_offset d c o
  | compact d c o => exact calendar?_compact d c o
  | spacedCompact d c o => exact calendar?_spacedCompact d c o
  | plain d c => exact calendar?_plain d c
  | spacedPlain d c => exact calendar?_spacedPlain d c
  | minutes d t => exact calendar?_minutes d t
  | dateOnly d => exact calendar?_dateOnly d

theorem Stamp.read?_text (s : Stamp) : read? .flexible s.text = some s.instant := by
  show flexible? s.text.toList = _
  unfold flexible? Stamp.text
  rw [String.toList_ofList, s.ofChars?_chars]
  exact s.calendar?_chars

/-- Under the flexible policy every stamp is read as the instant that it says, so two stamps are
read alike just when they say the same instant, whatever their forms and offsets. The days of an
instant are the one count of the days of the civil calendar from 1970-01-01. -/
theorem stamps_read :
    (∀ s : Stamp, read? .flexible s.text = some s.instant) ∧
    (∀ s s' : Stamp, read? .flexible s.text = read? .flexible s'.text ↔ s.instant = s'.instant) ∧
    ∀ count : Date → Int, Date.Counts count ↔ ∀ d : Date, d.Valid → count d = d.dayNumber := by
  refine ⟨Stamp.read?_text, fun s s' => ?_, fun count => Date.counts_iff⟩
  rw [s.read?_text, s'.read?_text, Option.some.injEq]

/-- The last evening of a February of 29 days, west of UTC. -/
def leapEvening : Stamp :=
  .offset ⟨⟨2024, 2, 29⟩, by decide, by decide, by decide⟩
    ⟨⟨23, 45, by decide, by decide⟩, 30, by decide, some ⟨1, 5, by decide, by decide, by decide⟩⟩
    ⟨true, ⟨1, 30, by decide, by decide⟩⟩

/-- The same instant in UTC. -/
def marchNight : Stamp :=
  .zulu ⟨⟨2024, 3, 1⟩, by decide, by decide, by decide⟩
    ⟨⟨1, 15, by decide, by decide⟩, 30, by decide, some ⟨3, 500, by decide, by decide, by decide⟩⟩

/-- The first morning of a year, east of UTC. -/
def newYearMorning : Stamp :=
  .spacedCompact ⟨⟨2025, 1, 1⟩, by decide, by decide, by decide⟩
    ⟨⟨2, 15, by decide, by decide⟩, 30, by decide, none⟩
    ⟨false, ⟨2, 30, by decide, by decide⟩⟩

/-- The same instant in UTC. -/
def oldYearNight : Stamp :=
  .plain ⟨⟨2024, 12, 31⟩, by decide, by decide, by decide⟩
    ⟨⟨23, 45, by decide, by decide⟩, 30, by decide, none⟩

/-- An offset leads over the end of a month and of a year. -/
theorem stamps_read_across_midnight :
    leapEvening.chars = "2024-02-29T23:45:30.5-01:30".toList ∧
    marchNight.chars = "2024-03-01T01:15:30.500Z".toList ∧
    newYearMorning.chars = "2025-01-01 02:15:30+0230".toList ∧
    oldYearNight.chars = "2024-12-31T23:45:30".toList ∧
    read? .flexible leapEvening.text = some ⟨1709255730, 500000000⟩ ∧
    read? .flexible leapEvening.text = read? .flexible marchNight.text ∧
    read? .flexible newYearMorning.text = read? .flexible oldYearNight.text := by
  obtain ⟨hread, hsame, -⟩ := stamps_read
  refine ⟨by decide +kernel, by decide +kernel, by decide +kernel, by decide +kernel, ?_, ?_, ?_⟩
  · exact (hread leapEvening).trans (by decide +kernel)
  · exact (hsame leapEvening marchNight).mpr (by decide +kernel)
  · exact (hsame newYearMorning oldYearNight).mpr (by decide +kernel)

end WebhookGuard.Timestamp

import WebhookGuard.Proofs.Time.Calendar
import WebhookGuard.Proofs.Timestamp.Digits

/-
  Calendar timestamps as they are written. A stamp is a day of a year of four digits, mostly with a
  time of day and an offset from UTC, in one of eight forms (`Stamp.chars`). What it says is an
  instant (`Stamp.instant`): the days since 1970 and the time of day, less the offset.

  Each part of a stamp is what an item of a layout scans, and nothing of what follows it is lost
  (`scan_number`, `scan_fraction`, `scan_zone` and their neighbours).
-/
namespace WebhookGuard.Timestamp

open WebhookGuard.Duration (fixedNumeral)
open WebhookGuard.Text WebhookGuard.Time

/-! ## Parts of a stamp -/

/-- A day of a year that has four digits. -/
structure Day where
  date : Date
  valid : date.Valid
  year_nonneg : 0 ≤ date.year
  year_le : date.year ≤ 9999

/-- Hours and minutes. -/
structure HourMinute where
  hour : Nat
  minute : Nat
  hour_lt : hour < 24
  minute_lt : minute < 60

/-- Decimals of a second, one to nine of them: so many of the parts that they divide it into. -/
structure Decimals where
  places : Nat
  part : Nat
  places_pos : 0 < places
  places_le : places ≤ 9
  part_lt : part < 10 ^ places

/-- A time of day, with decimals or without. -/
structure Clock where
  time : HourMinute
  second : Nat
  second_lt : second < 60
  decimals : Option Decimals

/-- How far local time is ahead of UTC, or behind it to the west. -/
structure Offset where
  west : Bool
  span : HourMinute

/-- The seconds of hours and minutes. -/
def HourMinute.seconds (t : HourMinute) : Nat := t.hour * 3600 + t.minute * 60

/-- The nanoseconds of decimals. -/
def Decimals.nanos (d : Decimals) : Nat := d.part * 10 ^ (9 - d.places)

/-- The nanoseconds past the second. -/
def Clock.nanos (c : Clock) : Nat :=
  match c.decimals with
  | none => 0
  | some d => d.nanos

/-- The time of day at a full minute. -/
def Clock.ofMinutes (t : HourMinute) : Clock := ⟨t, 0, by decide, none⟩

/-- The start of the day. -/
def Clock.midnight : Clock := .ofMinutes ⟨0, 0, by decide, by decide⟩

/-- The seconds by which local time is ahead of UTC. -/
def Offset.seconds (o : Offset) : Int := if o.west then -o.span.seconds else o.span.seconds

/-- The instant of a day and a time of day where local time is ahead of UTC by some seconds. -/
def Day.at (day : Day) (clock : Clock) (ahead : Int) : Instant :=
  ⟨day.date.dayNumber * 86400 + (clock.time.seconds + clock.second) - ahead, clock.nanos⟩

/-! ## Parts as they are written -/

/-- `2025-09-15` -/
def Day.chars (d : Day) : List Char :=
  fixedNumeral 4 d.date.year.toNat ++ '-' :: fixedNumeral 2 d.date.month ++
    '-' :: fixedNumeral 2 d.date.day

/-- `18:21` -/
def HourMinute.chars (t : HourMinute) : List Char :=
  fixedNumeral 2 t.hour ++ ':' :: fixedNumeral 2 t.minute

/-- `1821` -/
def HourMinute.compactChars (t : HourMinute) : List Char :=
  fixedNumeral 2 t.hour ++ fixedNumeral 2 t.minute

/-- Nothing, or `.123`. -/
def decimalChars : Option Decimals → List Char
  | none => []
  | some d => '.' :: fixedNumeral d.places d.part

/-- `18:21:01.123` -/
def Clock.chars (c : Clock) : List Char :=
  c.time.chars ++ ':' :: fixedNumeral 2 c.second ++ decimalChars c.decimals

/-- The sign of an offset. -/
def Offset.sign (o : Offset) : Char := if o.west then '-' else '+'

/-! ## Stamps -/

/-- A calendar timestamp in one of its forms. -/
inductive Stamp where
  /-- `2025-09-15T18:21:01Z` -/
  | zulu (day : Day) (clock : Clock)
  /-- `2025-09-15T18:21:01+02:00` -/
  | offset (day : Day) (clock : Clock) (offset : Offset)
  /-- `2025-09-15T18:21:01+0200` -/
  | compact (day : Day) (clock : Clock) (offset : Offset)
  /-- `2025-09-15 18:21:01+0200` -/
  | spacedCompact (day : Day) (clock : Clock) (offset : Offset)
  /-- `2025-09-15T18:21:01` -/
  | plain (day : Day) (clock : Clock)
  /-- `2025-09-15 18:21:01` -/
  | spacedPlain (day : Day) (clock : Clock)
  /-- `2025-09-15T18:21` -/
  | minutes (day : Day) (time : HourMinute)
  /-- `2025-09-15` -/
  | dateOnly (day : Day)

namespace Stamp

/-- A stamp as it is written. -/
def chars : Stamp → List Char
  | zulu day clock => day.chars ++ 'T' :: clock.chars ++ ['Z']
  | offset day clock o => day.chars ++ 'T' :: clock.chars ++ o.sign :: o.span.chars
  | compact day clock o => day.chars ++ 'T' :: clock.chars ++ o.sign :: o.span.compactChars
  | spacedCompact day clock o => day.chars ++ ' ' :: clock.chars ++ o.sign :: o.span.compactChars
  | plain day clock => day.chars ++ 'T' :: clock.chars
  | spacedPlain day clock => day.chars ++ ' ' :: clock.chars
  | minutes day time => day.chars ++ 'T' :: time.chars
  | dateOnly day => day.chars

/-- The text of a stamp. -/
def text (s : Stamp) : String := String.ofList s.chars

/-- The instant that a stamp says. What has no offset is UTC, and what has no time of day is
midnight. -/
def instant : Stamp → Instant
  | zulu day clock | plain day clock | spacedPlain day clock => day.at clock 0
  | offset day clock o | compact day clock o | spacedCompact day clock o => day.at clock o.seconds
  | minutes day time => day.at (.ofMinutes time) 0
  | dateOnly day => day.at .midnight 0

end Stamp

/-! ## Scanning numbers -/

section Numbers

variable {width n : Nat} {rest : List Char}

theorem exists_fixedNumeral_eq_cons (hw : 0 < width) (h : n < 10 ^ width) :
    ∃ c cs, fixedNumeral width n = c :: cs ∧ c.isDigit = true := by
  have hlen := length_fixedNumeral hw h
  cases hds : fixedNumeral width n with
  | nil =>
    rw [hds, List.length_nil] at hlen
    omega
  | cons c cs =>
    have hc := List.all_eq_true.mp (all_isDigit_fixedNumeral width n) c
    rw [hds] at hc
    exact ⟨c, cs, rfl, hc List.mem_cons_self⟩

theorem takeDigits_fixedNumeral (hw : 0 < width) (h : n < 10 ^ width) :
    takeDigits width (fixedNumeral width n ++ rest) = (fixedNumeral width n, rest) := by
  have hlen := length_fixedNumeral hw h
  exact takeDigits_append (all_isDigit_fixedNumeral width n) (Nat.le_of_eq hlen) (Or.inl hlen)

theorem fixedNumber?_fixedNumeral (hw : 0 < width) (h : n < 10 ^ width) :
    fixedNumber? width (fixedNumeral width n ++ rest) = some (n, rest) :=
  fixedNumber?_eq_some_iff.mpr ⟨_, takeDigits_fixedNumeral hw h, length_fixedNumeral hw h,
    digitsValue_fixedNumeral width n⟩

theorem shortNumber?_fixedNumeral (hw : 0 < width) (h : n < 10 ^ width) :
    shortNumber? width (fixedNumeral width n ++ rest) = some (n, rest) := by
  obtain ⟨c, cs, hds, -⟩ := exists_fixedNumeral_eq_cons hw h
  exact shortNumber?_eq_some_iff.mpr ⟨_, takeDigits_fixedNumeral hw h, by rw [hds]; simp,
    digitsValue_fixedNumeral width n⟩

/-- No blanks stand in front of digits. -/
theorem skipBlanks_fixedNumeral (hw : 0 < width) (h : n < 10 ^ width) :
    skipBlanks (fixedNumeral width n ++ rest) = fixedNumeral width n ++ rest := by
  obtain ⟨c, cs, hds, hc⟩ := exists_fixedNumeral_eq_cons hw h
  rw [hds, List.cons_append, skipBlanks_of_isDigit hc]

theorem year?_fixedNumeral (h : n < 10 ^ 4) :
    year? (fixedNumeral 4 n ++ rest) = some ((n : Int), rest) := by
  have hread : shortNumber? 4 (fixedNumeral 4 n ++ rest) = some (n, rest) :=
    shortNumber?_fixedNumeral (by decide) h
  obtain ⟨c, cs, hds, hc⟩ := exists_fixedNumeral_eq_cons (by decide : 0 < 4) h
  rw [hds] at hread ⊢
  rw [List.cons_append] at hread ⊢
  rw [year?_of_isDigit hc, hread]
  rfl

end Numbers

/-! ## Scanning items -/

section Items

variable {f : Fields} {n : Nat} {part : Part} {rest : List Char}

theorem scan_fixedYear (h : n < 10 ^ 4) :
    Item.fixedYear.scan f (fixedNumeral 4 n ++ rest) = some ({ f with year := n }, rest) := by
  rw [Item.scan, fixedNumber?_fixedNumeral (by decide) h]
  rfl

theorem scan_year (h : n < 10 ^ 4) :
    Item.year.scan f (fixedNumeral 4 n ++ rest) = some ({ f with year := n }, rest) := by
  rw [Item.scan, skipBlanks_fixedNumeral (by decide) h, year?_fixedNumeral h]
  rfl

theorem scan_fixed (h : n < 10 ^ 2) :
    (Item.fixed part).scan f (fixedNumeral 2 n ++ rest) = some (f.set part n, rest) := by
  rw [Item.scan, fixedNumber?_fixedNumeral (by decide) h]
  rfl

theorem scan_number (h : n < 10 ^ 2) :
    (Item.number part).scan f (fixedNumeral 2 n ++ rest) = some (f.set part n, rest) := by
  rw [Item.scan, skipBlanks_fixedNumeral (by decide) h, shortNumber?_fixedNumeral (by decide) h]
  rfl

theorem scan_mark {choices : List Char} {c : Char} (h : choices.contains c = true) :
    (Item.mark choices).scan f (c :: rest) = some (f, rest) := by
  rw [Item.scan, if_pos h]

theorem scan_mark_self (c : Char) : (Item.mark [c]).scan f (c :: rest) = some (f, rest) :=
  scan_mark (List.contains_iff_mem.mpr List.mem_cons_self)

theorem scan_mark_of_ne {choices : List Char} {c : Char} (h : choices.contains c = false) :
    (Item.mark choices).scan f (c :: rest) = none := by
  rw [Item.scan, h]
  rfl

/-- One blank between the date and the time. -/
theorem scan_blanks (h : n < 10 ^ 2) :
    Item.blanks.scan f (' ' :: (fixedNumeral 2 n ++ rest)) =
      some (f, fixedNumeral 2 n ++ rest) := by
  have hskip : skipBlanks (' ' :: (fixedNumeral 2 n ++ rest)) =
      skipBlanks (fixedNumeral 2 n ++ rest) := rfl
  rw [Item.scan, hskip, skipBlanks_fixedNumeral (by decide) h]

/-- What may follow a time of day: nothing, or what is neither a digit nor a point. -/
def EndsClock (rest : List Char) : Prop := ∀ c ∈ rest.head?, c.isDigit = false ∧ c ≠ '.'

theorem fractionNanos_fixedNumeral (d : Decimals) :
    fractionNanos (fixedNumeral d.places d.part) = d.nanos := by
  have hlen := length_fixedNumeral d.places_pos d.part_lt
  have htake : (fixedNumeral d.places d.part).take 9 = fixedNumeral d.places d.part :=
    List.take_of_length_le (Nat.le_trans (Nat.le_of_eq hlen) d.places_le)
  show digitsValue ((fixedNumeral d.places d.part).take 9) *
    Nat.pow 10 (9 - ((fixedNumeral d.places d.part).take 9).length) = d.nanos
  rw [htake, digitsValue_fixedNumeral, hlen]
  rfl

theorem fraction?_decimals (d : Decimals) (h : EndsClock rest) :
    fraction? ('.' :: (fixedNumeral d.places d.part ++ rest)) = some (d.nanos, rest) := by
  have htake : takeDigits (fixedNumeral d.places d.part ++ rest).length
      (fixedNumeral d.places d.part ++ rest) = (fixedNumeral d.places d.part, rest) :=
    takeDigits_append (all_isDigit_fixedNumeral _ _) (by rw [List.length_append]; omega)
      (Or.inr fun c hc => (h c hc).1)
  have hsome : (fixedNumeral d.places d.part).isEmpty = false := by
    obtain ⟨c, cs, hds, -⟩ := exists_fixedNumeral_eq_cons d.places_pos d.part_lt
    rw [hds]
    rfl
  unfold fraction?
  simp only [htake, hsome, Bool.false_eq_true, if_false, fractionNanos_fixedNumeral]

theorem fraction?_of_endsClock (h : EndsClock rest) : fraction? rest = some (0, rest) := by
  unfold fraction?
  split
  · exact absurd rfl (h '.' rfl).2
  · rfl

theorem scan_fraction (c : Clock) (h : EndsClock rest) :
    Item.fraction.scan f (decimalChars c.decimals ++ rest) =
      some ({ f with nanos := c.nanos }, rest) := by
  unfold Item.scan Clock.nanos
  cases c.decimals with
  | none =>
    show (fraction? rest).map _ = _
    rw [fraction?_of_endsClock h]
    rfl
  | some d =>
    show (fraction? ('.' :: (fixedNumeral d.places d.part ++ rest))).map _ = _
    rw [fraction?_decimals d h]
    rfl

end Items

/-! ## Scanning offsets -/

section Offsets

variable {f : Fields} {rest : List Char}

theorem HourMinute.hour_lt_hundred (t : HourMinute) : t.hour < 10 ^ 2 :=
  Nat.lt_trans t.hour_lt (by decide)

theorem HourMinute.minute_lt_hundred (t : HourMinute) : t.minute < 10 ^ 2 :=
  Nat.lt_trans t.minute_lt (by decide)

theorem Offset.sign_eq_or (o : Offset) : o.sign = '-' ∨ o.sign = '+' := by
  unfold sign
  split
  · exact Or.inl rfl
  · exact Or.inr rfl

theorem Offset.westward?_sign (o : Offset) : westward? o.sign = some o.west := by
  unfold sign
  cases o.west <;> decide

/-- An offset is read through whatever stands between its hours and minutes. -/
theorem signedOffset?_of_between (o : Offset) {between : List Char → Option (List Char)}
    (middle : List Char)
    (h : between (middle ++ (fixedNumeral 2 o.span.minute ++ rest)) =
      some (fixedNumeral 2 o.span.minute ++ rest)) :
    signedOffset? between (o.sign :: (fixedNumeral 2 o.span.hour ++
      (middle ++ (fixedNumeral 2 o.span.minute ++ rest)))) = some (o.seconds, rest) := by
  have hbound : o.span.hour < 24 ∧ o.span.minute < 60 := ⟨o.span.hour_lt, o.span.minute_lt⟩
  unfold signedOffset?
  simp only [o.westward?_sign, fixedNumber?_fixedNumeral (by decide) o.span.hour_lt_hundred, h,
    fixedNumber?_fixedNumeral (by decide) o.span.minute_lt_hundred, Option.bind_eq_bind,
    Option.bind_some, if_pos hbound]
  rfl

theorem signedOffset?_colon (o : Offset) :
    signedOffset? oneColon? (o.sign :: (o.span.chars ++ rest)) = some (o.seconds, rest) := by
  unfold HourMinute.chars
  rw [List.append_assoc, List.cons_append]
  exact signedOffset?_of_between o [':'] rfl

/-- Nothing has to stand between hours and minutes. -/
theorem colonsAndBlanks?_fixedNumeral {n : Nat} (h : n < 10 ^ 2) :
    colonsAndBlanks? (fixedNumeral 2 n ++ rest) = some (fixedNumeral 2 n ++ rest) := by
  obtain ⟨c, cs, hds, hc⟩ := exists_fixedNumeral_eq_cons (by decide : 0 < 2) h
  have hblank : isBlankChar c = false :=
    Bool.eq_false_iff.mpr fun hblank => by simp [isDigit_of_isBlankChar hblank] at hc
  have hcolon : (c == ':') = false := by
    rw [beq_eq_false_iff_ne]
    rintro rfl
    exact absurd hc (by decide)
  unfold colonsAndBlanks?
  rw [hds, List.cons_append, List.dropWhile_cons, hcolon, hblank]
  rfl

theorem signedOffset?_compact (o : Offset) :
    signedOffset? colonsAndBlanks? (o.sign :: (o.span.compactChars ++ rest)) =
      some (o.seconds, rest) := by
  unfold HourMinute.compactChars
  rw [List.append_assoc]
  exact signedOffset?_of_between o []
    (colonsAndBlanks?_fixedNumeral o.span.minute_lt_hundred)

/-- Where a colon has to stand there is a digit. -/
theorem signedOffset?_colon_compact (o : Offset) :
    signedOffset? oneColon? (o.sign :: (o.span.compactChars ++ rest)) = none := by
  obtain ⟨c, cs, hds, hc⟩ :=
    exists_fixedNumeral_eq_cons (by decide : 0 < 2) o.span.minute_lt_hundred
  have hcolon : oneColon? (fixedNumeral 2 o.span.minute ++ rest) = none := by
    rw [hds, List.cons_append]
    unfold oneColon?
    split
    · next heq =>
      obtain ⟨rfl, -⟩ := List.cons.inj heq
      exact absurd hc (by decide)
    · rfl
  unfold signedOffset? HourMinute.compactChars
  rw [List.append_assoc]
  simp only [o.westward?_sign, fixedNumber?_fixedNumeral (by decide) o.span.hour_lt_hundred, hcolon,
    Option.bind_eq_bind, Option.bind_some, Option.bind_none]

/-- A sign is not the letter for no offset. -/
theorem zone?_sign (o : Offset) (cs : List Char) :
    zone? (o.sign :: cs) = signedOffset? oneColon? (o.sign :: cs) := by
  rcases o.sign_eq_or with hsign | hsign <;> rw [hsign] <;> rfl

theorem scan_zone (o : Offset) :
    Item.zone.scan f (o.sign :: (o.span.chars ++ rest)) =
      some ({ f with offset := o.seconds }, rest) := by
  rw [Item.scan, zone?_sign, signedOffset?_colon]
  rfl

theorem scan_zone_compact (o : Offset) :
    Item.zone.scan f (o.sign :: (o.span.compactChars ++ rest)) = none := by
  rw [Item.scan, zone?_sign, signedOffset?_colon_compact]
  rfl

theorem scan_offset (o : Offset) :
    Item.offset.scan f (o.sign :: (o.span.compactChars ++ rest)) =
      some ({ f with offset := o.seconds }, rest) := by
  have hskip : ∀ cs, skipBlanks (o.sign :: cs) = o.sign :: cs := by
    intro cs
    rcases o.sign_eq_or with hsign | hsign <;> rw [hsign] <;> rfl
  rw [Item.scan, hskip, signedOffset?_compact]
  rfl

theorem endsClock_nil : EndsClock [] := by
  intro c hc
  cases hc

theorem endsClock_zulu : EndsClock ['Z'] := by
  intro c hc
  obtain rfl := Option.some.inj hc
  decide

theorem endsClock_sign (o : Offset) (cs : List Char) : EndsClock (o.sign :: cs) := by
  intro c hc
  obtain rfl := Option.some.inj hc
  rcases o.sign_eq_or with hsign | hsign <;> rw [hsign] <;> decide

end Offsets

end WebhookGuard.Timestamp

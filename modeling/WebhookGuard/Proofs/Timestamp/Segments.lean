import WebhookGuard.Proofs.Timestamp.Digits
import WebhookGuard.Timestamp.Calendar

/-
  What layouts take. A text fits a layout when it can be cut into segments, one for each item
  (`Layout.Fits`). An item takes as much as it can, so whether a segment is the one that it takes
  depends on the next character too (`Item.Takes`). Readers take exactly these segments
  (`Item.exists_scan_iff`), so a layout can be scanned exactly where it is fitted
  (`Layout.exists_scan_iff`).
-/
namespace WebhookGuard.Timestamp

open WebhookGuard.Text

/-- Turning what was read into something else changes nothing about what is left. -/
theorem exists_map_iff {α β : Type} {read : Option (α × List Char)} {rest : List Char}
    {f : α × List Char → β × List Char} (hf : ∀ p, (f p).2 = p.2) :
    (∃ b, read.map f = some (b, rest)) ↔ ∃ a, read = some (a, rest) := by
  cases read with
  | none => simp
  | some p =>
    obtain ⟨a, after⟩ := p
    have hafter : (f (a, after)).2 = after := hf _
    simp [Prod.ext_iff, hafter]

/-! ## Digits -/

/-- So many digits and nothing else. -/
def IsDigits (n : Nat) (cs : List Char) : Prop := cs.length = n ∧ cs.all Char.isDigit = true

instance (n : Nat) (cs : List Char) : Decidable (IsDigits n cs) :=
  inferInstanceAs (Decidable (_ ∧ _))

/-- No digit comes next. -/
def EndsDigits (rest : List Char) : Prop := ∀ c ∈ rest.head?, c.isDigit = false

/-- One digit or more, up to a limit, and no more of them only at the limit. -/
structure TakesDigits (max : Nat) (ds rest : List Char) : Prop where
  ne_nil : ds ≠ []
  digits : ds.all Char.isDigit = true
  length_le : ds.length ≤ max
  ends : ds.length = max ∨ EndsDigits rest

theorem takeDigits_eq_iff {max : Nat} {cs ds rest : List Char} :
    takeDigits max cs = (ds, rest) ↔ cs = ds ++ rest ∧ ds.all Char.isDigit = true ∧
      ds.length ≤ max ∧ (ds.length = max ∨ EndsDigits rest) := by
  constructor
  · intro h
    have hcs := takeDigits_append_eq max cs
    rw [h] at hcs
    refine ⟨hcs.symm, ?_⟩
    clear hcs
    induction max generalizing cs ds with
    | zero =>
      obtain ⟨rfl, rfl⟩ := Prod.mk.inj h
      exact ⟨rfl, Nat.le_refl _, Or.inl rfl⟩
    | succ max ih =>
      cases cs with
      | nil =>
        obtain ⟨rfl, rfl⟩ := Prod.mk.inj h
        exact ⟨rfl, Nat.zero_le _, Or.inr nofun⟩
      | cons c cs =>
        rw [takeDigits] at h
        split at h
        · next hc =>
          obtain ⟨rfl, rfl⟩ := Prod.mk.inj h
          obtain ⟨hall, hle, hends⟩ := ih rfl
          refine ⟨?_, Nat.succ_le_succ hle, hends.imp_left (congrArg Nat.succ)⟩
          rw [List.all_cons, hc, hall]
          rfl
        · next hc =>
          obtain ⟨rfl, rfl⟩ := Prod.mk.inj h
          refine ⟨rfl, Nat.zero_le _, Or.inr fun d hd => ?_⟩
          obtain rfl := Option.some.inj hd
          exact Bool.eq_false_iff.mpr hc
  · rintro ⟨rfl, hall, hle, hends⟩
    exact takeDigits_append hall hle hends

theorem exists_shortNumber?_iff {max : Nat} {cs rest : List Char} :
    (∃ k, shortNumber? max cs = some (k, rest)) ↔
      ∃ ds, cs = ds ++ rest ∧ TakesDigits max ds rest := by
  simp only [shortNumber?_eq_some_iff, takeDigits_eq_iff]
  constructor
  · rintro ⟨k, ds, ⟨hcs, hall, hle, hends⟩, hne, -⟩
    exact ⟨ds, hcs, hne, hall, hle, hends⟩
  · rintro ⟨ds, hcs, hne, hall, hle, hends⟩
    exact ⟨_, ds, ⟨hcs, hall, hle, hends⟩, hne, rfl⟩

theorem fixedNumber?_iff {width k : Nat} {cs rest : List Char} :
    fixedNumber? width cs = some (k, rest) ↔
      ∃ ds, cs = ds ++ rest ∧ IsDigits width ds ∧ digitsValue ds = k := by
  simp only [fixedNumber?_eq_some_iff, takeDigits_eq_iff]
  constructor
  · rintro ⟨ds, ⟨hcs, hall, -, -⟩, hlen, hvalue⟩
    exact ⟨ds, hcs, ⟨hlen, hall⟩, hvalue⟩
  · rintro ⟨ds, hcs, ⟨hlen, hall⟩, hvalue⟩
    exact ⟨ds, ⟨hcs, hall, Nat.le_of_eq hlen, Or.inl hlen⟩, hlen, hvalue⟩

theorem exists_fixedNumber?_iff {width : Nat} {cs rest : List Char} :
    (∃ k, fixedNumber? width cs = some (k, rest)) ↔
      ∃ ds, cs = ds ++ rest ∧ IsDigits width ds := by
  simp only [fixedNumber?_iff]
  constructor
  · rintro ⟨k, ds, hcs, hds, -⟩
    exact ⟨ds, hcs, hds⟩
  · rintro ⟨ds, hcs, hds⟩
    exact ⟨_, ds, hcs, hds, rfl⟩

/-! ## Blanks -/

/-- White space and nothing else. -/
def IsBlanks (cs : List Char) : Prop := cs.all isBlankChar = true

/-- No white space comes next. -/
def EndsBlanks (rest : List Char) : Prop := ∀ c ∈ rest.head?, isBlankChar c = false

theorem skipBlanks_eq_iff {cs rest : List Char} :
    skipBlanks cs = rest ↔ ∃ blanks, cs = blanks ++ rest ∧ IsBlanks blanks ∧ EndsBlanks rest := by
  unfold skipBlanks
  constructor
  · rintro rfl
    refine ⟨cs.takeWhile isBlankChar, (List.takeWhile_append_dropWhile).symm,
      List.all_takeWhile, fun c hc => ?_⟩
    have hhead := List.head?_dropWhile_not isBlankChar cs
    rw [hc] at hhead
    exact hhead
  · rintro ⟨blanks, rfl, hblanks, hends⟩
    rw [List.dropWhile_append_of_pos (List.all_eq_true.mp hblanks)]
    cases rest with
    | nil => rfl
    | cons c rest => rw [List.dropWhile_cons, hends c rfl]; rfl

/-- A reader that takes segments which do not open with white space may pass over white space. -/
theorem exists_skipBlanks_iff {α : Type} {read : List Char → Option (α × List Char)}
    {takes : List Char → List Char → Prop}
    (hread : ∀ {cs rest}, (∃ a, read cs = some (a, rest)) ↔
      ∃ segment, cs = segment ++ rest ∧ takes segment rest)
    (hends : ∀ {segment rest}, takes segment rest → EndsBlanks (segment ++ rest))
    {cs rest : List Char} :
    (∃ a, read (skipBlanks cs) = some (a, rest)) ↔ ∃ segment, cs = segment ++ rest ∧
      ∃ blanks body, segment = blanks ++ body ∧ IsBlanks blanks ∧ takes body rest := by
  rw [hread]
  constructor
  · rintro ⟨body, hskip, hbody⟩
    obtain ⟨blanks, rfl, hblanks, -⟩ := skipBlanks_eq_iff.mp hskip
    exact ⟨blanks ++ body, (List.append_assoc ..).symm, blanks, body, rfl, hblanks, hbody⟩
  · rintro ⟨_, rfl, blanks, body, rfl, hblanks, hbody⟩
    refine ⟨body, skipBlanks_eq_iff.mpr ⟨blanks, List.append_assoc .., hblanks, ?_⟩, hbody⟩
    exact hends hbody

theorem isBlankChar_of_isDigit {c : Char} (h : c.isDigit = true) : isBlankChar c = false := by
  refine Bool.eq_false_iff.mpr fun hblank => ?_
  rw [isDigit_of_isBlankChar hblank] at h
  cases h

theorem TakesDigits.endsBlanks {max : Nat} {ds rest : List Char} (h : TakesDigits max ds rest) :
    EndsBlanks (ds ++ rest) := by
  obtain ⟨d, ds, rfl⟩ := List.exists_cons_of_ne_nil h.ne_nil
  intro c hc
  obtain rfl := Option.some.inj hc
  exact isBlankChar_of_isDigit (List.all_eq_true.mp h.digits _ List.mem_cons_self)

/-! ## Years, fractions and offsets -/

/-- A sign and all digits that follow it. -/
def IsSignedYear (year rest : List Char) : Prop :=
  ∃ sign ds, year = sign :: ds ∧ (sign = '-' ∨ sign = '+') ∧ ds ≠ [] ∧
    ds.all Char.isDigit = true ∧ EndsDigits rest

/-- A year of up to four digits, or of any number of digits after a sign. -/
def TakesYear (year rest : List Char) : Prop := TakesDigits 4 year rest ∨ IsSignedYear year rest

theorem exists_shortNumber?_length_iff {cs rest : List Char} :
    (∃ k, shortNumber? cs.length cs = some (k, rest)) ↔
      ∃ ds, cs = ds ++ rest ∧ ds ≠ [] ∧ ds.all Char.isDigit = true ∧ EndsDigits rest := by
  rw [exists_shortNumber?_iff]
  refine exists_congr fun ds => and_congr_right ?_
  rintro rfl
  constructor
  · rintro ⟨hne, hall, -, hends⟩
    refine ⟨hne, hall, hends.elim (fun hlen => ?_) id⟩
    rw [List.length_append] at hlen
    rw [List.eq_nil_of_length_eq_zero (by omega : rest.length = 0)]
    exact nofun
  · rintro ⟨hne, hall, hends⟩
    exact ⟨hne, hall, by rw [List.length_append]; omega, Or.inr hends⟩

theorem exists_year?_iff {cs rest : List Char} :
    (∃ k, year? cs = some (k, rest)) ↔ ∃ year, cs = year ++ rest ∧ TakesYear year rest := by
  have hsigned : ∀ {sign : Char} {ds : List Char}, sign = '-' ∨ sign = '+' →
      ((∃ k, shortNumber? ds.length ds = some (k, rest)) ↔
        ∃ year, sign :: ds = year ++ rest ∧ TakesYear year rest) := by
    intro sign ds hsign
    rw [exists_shortNumber?_length_iff]
    constructor
    · rintro ⟨ds', rfl, hne, hall, hends⟩
      exact ⟨sign :: ds', rfl, Or.inr ⟨sign, ds', rfl, hsign, hne, hall, hends⟩⟩
    · rintro ⟨year, hcs, htakes | ⟨sign', ds', rfl, -, hne, hall, hends⟩⟩
      · obtain ⟨d, year, rfl⟩ := List.exists_cons_of_ne_nil htakes.ne_nil
        obtain ⟨rfl, -⟩ := List.cons.inj hcs
        have hdigit := List.all_eq_true.mp htakes.digits _ List.mem_cons_self
        rcases hsign with rfl | rfl <;> exact absurd hdigit (by decide)
      · obtain ⟨-, rfl⟩ := List.cons.inj hcs
        exact ⟨ds', rfl, hne, hall, hends⟩
  unfold year?
  split
  · exact (exists_map_iff (by exact fun _ => rfl)).trans (hsigned (Or.inl rfl))
  · exact (exists_map_iff (by exact fun _ => rfl)).trans (hsigned (Or.inr rfl))
  · next hminus hplus =>
    refine (exists_map_iff (by exact fun _ => rfl)).trans (exists_shortNumber?_iff.trans ?_)
    refine exists_congr fun year => and_congr_right fun hcs => ⟨Or.inl, fun h => h.resolve_right ?_⟩
    rintro ⟨sign, ds, rfl, rfl | rfl, -⟩
    · exact hminus _ hcs
    · exact hplus _ hcs

/-- Nothing, where no point comes next, or a point and all digits that follow it. -/
def TakesFraction (fraction rest : List Char) : Prop :=
  (fraction = [] ∧ rest.head? ≠ some '.') ∨
    ∃ ds, fraction = '.' :: ds ∧ ds ≠ [] ∧ ds.all Char.isDigit = true ∧ EndsDigits rest

theorem exists_fraction?_iff {cs rest : List Char} :
    (∃ k, fraction? cs = some (k, rest)) ↔
      ∃ fraction, cs = fraction ++ rest ∧ TakesFraction fraction rest := by
  unfold fraction?
  split
  · next cs =>
    have hread : (∃ k, (if (takeDigits cs.length cs).1.isEmpty then none
        else some (fractionNanos (takeDigits cs.length cs).1, (takeDigits cs.length cs).2)) =
          some (k, rest)) ↔ ∃ k, shortNumber? cs.length cs = some (k, rest) := by
      unfold shortNumber?
      simp
    refine hread.trans (exists_shortNumber?_length_iff.trans ?_)
    constructor
    · rintro ⟨ds, rfl, hds⟩
      exact ⟨'.' :: ds, rfl, Or.inr ⟨ds, rfl, hds⟩⟩
    · rintro ⟨fraction, hcs, ⟨rfl, hpoint⟩ | ⟨ds, rfl, hds⟩⟩
      · exact absurd (congrArg List.head? hcs.symm) hpoint
      · exact ⟨ds, (List.cons.inj hcs).2, hds⟩
  · next hpoint =>
    constructor
    · rintro ⟨k, h⟩
      obtain ⟨-, rfl⟩ := Prod.mk.inj (Option.some.inj h)
      refine ⟨[], rfl, Or.inl ⟨rfl, fun hhead => ?_⟩⟩
      obtain ⟨tail, htail⟩ := List.head?_eq_some_iff.mp hhead
      exact hpoint tail htail
    · rintro ⟨fraction, rfl, ⟨rfl, -⟩ | ⟨ds, rfl, -⟩⟩
      · exact ⟨0, rfl⟩
      · exact absurd rfl (hpoint (ds ++ rest))

/-- Signs of an offset: a minus may be written as such or as a hyphen. -/
def signs : List Char := ['+', '-', '\u2212']

theorem westward?_isSome_iff {c : Char} : (westward? c).isSome ↔ c ∈ signs := by
  unfold westward? signs
  by_cases hplus : c = '+'
  · simp [hplus]
  · by_cases hminus : c = '-' ∨ c = '\u2212'
    · simp [hplus, hminus]
    · simp [hplus, hminus]

theorem isBlankChar_of_mem_signs {c : Char} (h : c ∈ signs) : isBlankChar c = false := by
  simp only [signs, List.mem_cons, List.not_mem_nil, or_false] at h
  rcases h with rfl | rfl | rfl <;> decide

/-- A sign, hours and minutes of two digits that are in range, and what is allowed between them. -/
def IsOffset (middle : List Char → Prop) (offset : List Char) : Prop :=
  ∃ sign hours between minutes, offset = sign :: (hours ++ (between ++ minutes)) ∧ sign ∈ signs ∧
    IsDigits 2 hours ∧ middle between ∧ IsDigits 2 minutes ∧
    digitsValue hours < 24 ∧ digitsValue minutes < 60

/-- The reader of what stands between hours and minutes takes what is allowed there, provided that
two digits follow. -/
def ReadsBetween (read : List Char → Option (List Char)) (middle : List Char → Prop) : Prop :=
  ∀ cs minutes rest, IsDigits 2 minutes →
    (read cs = some (minutes ++ rest) ↔ ∃ between, cs = between ++ (minutes ++ rest) ∧
      middle between)

theorem exists_signedOffset?_iff {read : List Char → Option (List Char)}
    {middle : List Char → Prop} (hread : ReadsBetween read middle) {cs rest : List Char} :
    (∃ k, signedOffset? read cs = some (k, rest)) ↔
      ∃ offset, cs = offset ++ rest ∧ IsOffset middle offset := by
  constructor
  · rintro ⟨k, h⟩
    cases cs with
    | nil => cases h
    | cons sign cs =>
      obtain ⟨west, hwest, h₁⟩ := Option.bind_eq_some_iff.mp h
      obtain ⟨⟨hour, afterHours⟩, hreadHours, h₂⟩ := Option.bind_eq_some_iff.mp h₁
      obtain ⟨afterBetween, hreadBetween, h₃⟩ := Option.bind_eq_some_iff.mp h₂
      obtain ⟨⟨minute, afterMinutes⟩, hreadMinutes, h₄⟩ := Option.bind_eq_some_iff.mp h₃
      obtain ⟨⟨hhour, hminute⟩, h₅⟩ := Option.ite_none_right_eq_some.mp h₄
      obtain ⟨-, rfl⟩ := Prod.mk.inj (Option.some.inj h₅)
      obtain ⟨hours, rfl, hhours, rfl⟩ := fixedNumber?_iff.mp hreadHours
      obtain ⟨minutes, rfl, hminutes, rfl⟩ := fixedNumber?_iff.mp hreadMinutes
      obtain ⟨between, rfl, hmiddle⟩ := (hread _ _ _ hminutes).mp hreadBetween
      have hsign : sign ∈ signs := westward?_isSome_iff.mp (by rw [hwest]; rfl)
      exact ⟨sign :: (hours ++ (between ++ minutes)), by simp, sign, hours, between, minutes, rfl,
        hsign, hhours, hmiddle, hminutes, hhour, hminute⟩
  · rintro ⟨offset, rfl, sign, hours, between, minutes, rfl, hsign, hhours, hmiddle, hminutes,
      hhour, hminute⟩
    obtain ⟨west, hwest⟩ := Option.isSome_iff_exists.mp (westward?_isSome_iff.mpr hsign)
    have hreadHours : fixedNumber? 2 (hours ++ (between ++ (minutes ++ rest))) =
        some (digitsValue hours, between ++ (minutes ++ rest)) :=
      fixedNumber?_iff.mpr ⟨hours, rfl, hhours, rfl⟩
    have hreadBetween : read (between ++ (minutes ++ rest)) = some (minutes ++ rest) :=
      (hread _ _ _ hminutes).mpr ⟨between, rfl, hmiddle⟩
    have hreadMinutes : fixedNumber? 2 (minutes ++ rest) = some (digitsValue minutes, rest) :=
      fixedNumber?_iff.mpr ⟨minutes, rfl, hminutes, rfl⟩
    refine ⟨if west then -((digitsValue hours * 3600 + digitsValue minutes * 60 : Nat) : Int)
      else ((digitsValue hours * 3600 + digitsValue minutes * 60 : Nat) : Int), ?_⟩
    rw [List.cons_append, List.append_assoc, List.append_assoc]
    unfold signedOffset?
    simp only [hwest, hreadHours, hreadBetween, hreadMinutes, Option.bind_eq_bind,
      Option.bind_some, if_pos (And.intro hhour hminute)]
    rfl

/-- A colon and nothing else. -/
def IsColon (cs : List Char) : Prop := cs = [':']

/-- Colons and white space. -/
def IsColonsAndBlanks (cs : List Char) : Prop :=
  (cs.all fun c => c == ':' || isBlankChar c) = true

theorem readsBetween_oneColon : ReadsBetween oneColon? IsColon := by
  intro cs minutes rest _
  unfold oneColon? IsColon
  split
  · simp
  · next hcolon =>
    refine iff_of_false nofun ?_
    rintro ⟨between, rfl, rfl⟩
    exact hcolon _ rfl

theorem readsBetween_colonsAndBlanks : ReadsBetween colonsAndBlanks? IsColonsAndBlanks := by
  intro cs minutes rest hminutes
  obtain ⟨hlen, hdigits⟩ := hminutes
  obtain ⟨d, ds, rfl⟩ := List.exists_cons_of_ne_nil (fun hnil => by simp [hnil] at hlen :
    minutes ≠ [])
  have hd : d.isDigit = true := List.all_eq_true.mp hdigits _ List.mem_cons_self
  have hstop : (d == ':' || isBlankChar d) = false := by
    rw [isBlankChar_of_isDigit hd, Bool.or_false, beq_eq_false_iff_ne]
    rintro rfl
    exact absurd hd (by decide)
  unfold colonsAndBlanks? IsColonsAndBlanks
  rw [Option.some.injEq]
  constructor
  · intro h
    exact ⟨cs.takeWhile _, by rw [← h, List.takeWhile_append_dropWhile], List.all_takeWhile⟩
  · rintro ⟨between, rfl, hbetween⟩
    rw [List.dropWhile_append_of_pos (List.all_eq_true.mp hbetween), List.cons_append,
      List.dropWhile_cons, hstop]
    rfl

/-- The letter Z or an offset with a colon. -/
def IsZone (zone : List Char) : Prop := zone = ['Z'] ∨ zone = ['z'] ∨ IsOffset IsColon zone

theorem exists_zone?_iff {cs rest : List Char} :
    (∃ k, zone? cs = some (k, rest)) ↔ ∃ zone, cs = zone ++ rest ∧ IsZone zone := by
  -- No sign is a letter.
  have hletter : ∀ {c : Char} {tail : List Char}, c = 'Z' ∨ c = 'z' →
      ((∃ k : Int, some ((0 : Int), tail) = some (k, rest)) ↔
        ∃ zone, c :: tail = zone ++ rest ∧ IsZone zone) := by
    intro c tail hc
    constructor
    · rintro ⟨k, h⟩
      obtain ⟨-, rfl⟩ := Prod.mk.inj (Option.some.inj h)
      exact ⟨[c], rfl, by rcases hc with rfl | rfl <;> simp [IsZone]⟩
    · rintro ⟨zone, hcs, rfl | rfl | ⟨sign, _, _, _, rfl, hsign, -⟩⟩
      · exact ⟨0, by rw [(List.cons.inj hcs).2]; rfl⟩
      · exact ⟨0, by rw [(List.cons.inj hcs).2]; rfl⟩
      · obtain ⟨rfl, -⟩ := List.cons.inj hcs
        rcases hc with rfl | rfl <;> exact absurd hsign (by decide)
  unfold zone?
  split
  · exact hletter (Or.inl rfl)
  · exact hletter (Or.inr rfl)
  · next hcapital hsmall =>
    refine (exists_signedOffset?_iff readsBetween_oneColon).trans (exists_congr fun zone => ?_)
    refine and_congr_right fun hcs => ⟨fun h => Or.inr (Or.inr h), ?_⟩
    rintro (rfl | rfl | h)
    · exact absurd hcs (hcapital _)
    · exact absurd hcs (hsmall _)
    · exact h

theorem IsOffset.endsBlanks {middle : List Char → Prop} {offset rest : List Char}
    (h : IsOffset middle offset) : EndsBlanks (offset ++ rest) := by
  obtain ⟨sign, _, _, _, rfl, hsign, -⟩ := h
  intro c hc
  obtain rfl := Option.some.inj hc
  exact isBlankChar_of_mem_signs hsign

/-! ## Items and layouts -/

/-- The segment that an item takes before what follows. -/
def Item.Takes (item : Item) (segment rest : List Char) : Prop :=
  match item with
  | .fixedYear => IsDigits 4 segment
  | .fixed _ => IsDigits 2 segment
  | .year => ∃ blanks year, segment = blanks ++ year ∧ IsBlanks blanks ∧ TakesYear year rest
  | .number _ => ∃ blanks ds, segment = blanks ++ ds ∧ IsBlanks blanks ∧ TakesDigits 2 ds rest
  | .mark choices => ∃ c ∈ choices, segment = [c]
  | .blanks => IsBlanks segment ∧ EndsBlanks rest
  | .fraction => TakesFraction segment rest
  | .zone => IsZone segment
  | .offset => ∃ blanks offset, segment = blanks ++ offset ∧ IsBlanks blanks ∧
      IsOffset IsColonsAndBlanks offset

theorem TakesYear.endsBlanks {year rest : List Char} (h : TakesYear year rest) :
    EndsBlanks (year ++ rest) := by
  rcases h with h | ⟨sign, ds, rfl, hsign, -⟩
  · exact h.endsBlanks
  · intro c hc
    obtain rfl := Option.some.inj hc
    rcases hsign with rfl | rfl <;> decide

/-- Scanning an item takes its segment and leaves the rest. -/
theorem Item.exists_scan_iff (item : Item) (f : Fields) {cs rest : List Char} :
    (∃ g, item.scan f cs = some (g, rest)) ↔
      ∃ segment, cs = segment ++ rest ∧ item.Takes segment rest := by
  cases item with
  | fixedYear => exact (exists_map_iff (by exact fun _ => rfl)).trans exists_fixedNumber?_iff
  | fixed part => exact (exists_map_iff (by exact fun _ => rfl)).trans exists_fixedNumber?_iff
  | year =>
    exact (exists_map_iff (by exact fun _ => rfl)).trans
      (exists_skipBlanks_iff exists_year?_iff TakesYear.endsBlanks)
  | number part =>
    exact (exists_map_iff (by exact fun _ => rfl)).trans
      (exists_skipBlanks_iff exists_shortNumber?_iff TakesDigits.endsBlanks)
  | mark choices =>
    cases cs with
    | nil => simp [scan, Takes]
    | cons c cs =>
      have hscan : (∃ g, (Item.mark choices).scan f (c :: cs) = some (g, rest)) ↔
          c ∈ choices ∧ cs = rest := by simp [scan]
      rw [hscan]
      constructor
      · rintro ⟨hc, rfl⟩
        exact ⟨[c], rfl, c, hc, rfl⟩
      · rintro ⟨_, hcs, d, hd, rfl⟩
        obtain ⟨rfl, rfl⟩ := List.cons.inj hcs
        exact ⟨hd, rfl⟩
  | blanks =>
    show (∃ g, some (f, skipBlanks cs) = some (g, rest)) ↔ _
    simp [skipBlanks_eq_iff, Takes]
  | fraction => exact (exists_map_iff (by exact fun _ => rfl)).trans exists_fraction?_iff
  | zone => exact (exists_map_iff (by exact fun _ => rfl)).trans exists_zone?_iff
  | offset =>
    exact (exists_map_iff (by exact fun _ => rfl)).trans
      (exists_skipBlanks_iff (exists_signedOffset?_iff readsBetween_colonsAndBlanks)
        IsOffset.endsBlanks)

/-- A text can be cut into segments, one for each item of a layout. -/
def Layout.Fits (takes : Item → List Char → List Char → Prop) : Layout → List Char → Prop
  | [], cs => cs = []
  | item :: items, cs =>
    ∃ segment rest, cs = segment ++ rest ∧ takes item segment rest ∧ Layout.Fits takes items rest

/-- A layout can be scanned exactly where it is fitted. -/
theorem Layout.exists_scan_iff (layout : Layout) (f : Fields) {cs : List Char} :
    (∃ g, layout.scan f cs = some g) ↔ layout.Fits Item.Takes cs := by
  induction layout generalizing f cs with
  | nil => cases cs <;> simp [scan, Fits]
  | cons item items ih =>
    rw [scan]
    constructor
    · rintro ⟨g, h⟩
      split at h
      · cases h
      · next next rest hitem =>
        obtain ⟨segment, rfl, htakes⟩ := (item.exists_scan_iff f).mp ⟨next, hitem⟩
        exact ⟨segment, rest, rfl, htakes, (ih next).mp ⟨g, h⟩⟩
    · rintro ⟨segment, rest, rfl, htakes, hfits⟩
      obtain ⟨next, hitem⟩ := (item.exists_scan_iff f).mpr ⟨segment, rfl, htakes⟩
      rw [hitem]
      exact (ih next).mpr hfits

/-- An item takes one segment, wherever it can take one. -/
theorem Item.Takes.rest_unique {item : Item} {segment segment' rest rest' : List Char}
    (h : item.Takes segment rest) (h' : item.Takes segment' rest')
    (heq : segment ++ rest = segment' ++ rest') : rest = rest' := by
  obtain ⟨g, hg⟩ := (item.exists_scan_iff {}).mpr ⟨segment, rfl, h⟩
  obtain ⟨g', hg'⟩ := (item.exists_scan_iff {}).mpr ⟨segment', heq, h'⟩
  rw [hg] at hg'
  exact (Prod.mk.inj (Option.some.inj hg')).2

/-- Once the segment of an item is known, the other items fit what is left. -/
theorem Layout.Fits.tail {item : Item} {items : Layout} {segment rest : List Char}
    (h : Layout.Fits Item.Takes (item :: items) (segment ++ rest))
    (htakes : item.Takes segment rest) : Layout.Fits Item.Takes items rest := by
  obtain ⟨segment', rest', heq, htakes', hfits⟩ := h
  rw [htakes.rest_unique htakes' heq]
  exact hfits

end WebhookGuard.Timestamp

import WebhookGuard.Proofs.Timestamp.Documented
import WebhookGuard.Timestamp.Read

/-
  Accepted timestamps. White space in a documented timestamp is one space after the date
  (`IsDocumented.blank`), and no accepted timestamp ends in white space: every layout ends with
  digits or with an offset (`endsSolid_of_fits`). Loose layouts read over white space elsewhere, so
  what is accepted is documented if and only if the layout that reads it takes segments of documented
  form (`accepted_documented_iff`).
-/
namespace WebhookGuard.Timestamp

open WebhookGuard.Text

/-! ## White space -/

/-- No white space at all. -/
def IsSolid (cs : List Char) : Prop := ∀ c ∈ cs, isBlankChar c = false

theorem isSolid_of_isDigit {ds : List Char} (h : ds.all Char.isDigit = true) : IsSolid ds :=
  fun _ hc => isBlankChar_of_isDigit (List.all_eq_true.mp h _ hc)

@[simp]
theorem isSolid_append {cs ds : List Char} : IsSolid (cs ++ ds) ↔ IsSolid cs ∧ IsSolid ds :=
  List.forall_mem_append

@[simp]
theorem isSolid_cons {c : Char} {cs : List Char} :
    IsSolid (c :: cs) ↔ isBlankChar c = false ∧ IsSolid cs :=
  List.forall_mem_cons

@[simp]
theorem isSolid_nil : IsSolid [] := List.forall_mem_nil _

theorem IsDate.isSolid {date : List Char} (h : IsDate date) : IsSolid date := by
  obtain ⟨year, month, day, rfl, hyear, hmonth, hday⟩ := h
  have hhyphen : isBlankChar '-' = false := by decide
  simp [hhyphen, isSolid_of_isDigit hyear.2, isSolid_of_isDigit hmonth.2, isSolid_of_isDigit hday.2]

theorem IsMinutes.isSolid {minutes : List Char} (h : IsMinutes minutes) : IsSolid minutes := by
  obtain ⟨hour, minute, rfl, hhour, hminute⟩ := h
  have hcolon : isBlankChar ':' = false := by decide
  simp [hcolon, isSolid_of_isDigit hhour.2, isSolid_of_isDigit hminute.2]

theorem IsSeconds.isSolid {seconds : List Char} (h : IsSeconds seconds) : IsSolid seconds := by
  obtain ⟨second, fraction, rfl, hsecond, hfraction⟩ := h
  have hcolon : isBlankChar ':' = false := by decide
  have hpoint : isBlankChar '.' = false := by decide
  have hfraction' : IsSolid fraction := by
    rcases hfraction with rfl | ⟨ds, rfl, -, hds⟩
    · exact isSolid_nil
    · exact isSolid_cons.mpr ⟨hpoint, isSolid_of_isDigit hds⟩
  simp [hcolon, isSolid_of_isDigit hsecond.2, hfraction']

theorem IsOffsetForm.isSolid {offset : List Char} (h : IsOffsetForm offset) : IsSolid offset := by
  have hcolon : isBlankChar ':' = false := by decide
  have hletters : isBlankChar 'Z' = false ∧ isBlankChar 'z' = false := by decide
  rcases h with rfl | rfl | ⟨sign, hours, colon, minutes, rfl, hsign, hhours, hbetween, hminutes⟩
  · simp [hletters]
  · simp [hletters]
  · have hbetween' : IsSolid colon := by rcases hbetween with rfl | rfl <;> simp [hcolon]
    simp [isBlankChar_of_mem_signs hsign, hbetween', isSolid_of_isDigit hhours.2,
      isSolid_of_isDigit hminutes.2]

theorem IsNumber.isSolid {cs : List Char} (h : IsNumber cs) : IsSolid cs := by
  have hminus : isBlankChar '-' = false := by decide
  obtain ⟨ds, -, hds, rfl | rfl⟩ := h
  · exact isSolid_of_isDigit hds
  · exact isSolid_cons.mpr ⟨hminus, isSolid_of_isDigit hds⟩

/-- A separator is the only white space in a time of day. -/
theorem IsTimeOfDay.exists_cons {time : List Char} (h : IsTimeOfDay time) :
    ∃ separator rest, time = separator :: rest ∧ separator ∈ ['T', 't', ' '] ∧ IsSolid rest := by
  obtain ⟨separator, minutes, seconds, rfl, hseparator, hminutes, hseconds⟩ := h
  have hseconds' : IsSolid seconds := by
    rcases hseconds with rfl | hseconds
    · exact isSolid_nil
    · exact hseconds.isSolid
  exact ⟨separator, _, rfl, hseparator, isSolid_append.mpr ⟨hminutes.isSolid, hseconds'⟩⟩

section Position

variable {cs front back : List Char} {c : Char}

theorem IsSolid.not_blank (h : IsSolid cs) (hcs : cs = front ++ c :: back) :
    isBlankChar c = false := by
  rw [hcs] at h
  exact h c (List.mem_append_right _ List.mem_cons_self)

/-- White space is not within what has none, so it is in what follows. -/
theorem IsSolid.exists_of_append {ds : List Char} (h : IsSolid ds)
    (hcs : ds ++ cs = front ++ c :: back) (hc : isBlankChar c = true) :
    ∃ after, front = ds ++ after ∧ cs = after ++ c :: back := by
  rcases List.append_eq_append_iff.mp hcs with ⟨after, rfl, hafter⟩ | ⟨within, rfl, hwithin⟩
  · exact ⟨after, rfl, hafter⟩
  · cases within with
    | nil => exact ⟨[], by simp, hwithin.symm⟩
    | cons d within =>
      obtain ⟨rfl, -⟩ := List.cons.inj hwithin
      rw [h.not_blank rfl] at hc
      cases hc

/-- The only white space of a documented timestamp is a space after the date. -/
theorem IsDocumented.blank {raw : String} (h : IsDocumented raw)
    (hraw : raw.toList = front ++ c :: back) (hc : isBlankChar c = true) :
    c = ' ' ∧ IsDate front := by
  have hnot : ¬ isBlankChar c = false := by rw [hc]; exact nofun
  rcases h with hnumber | ⟨date, time, offset, hcs, hdate, htime, hoffset⟩
  · exact absurd (hnumber.isSolid.not_blank hraw) hnot
  · have hoffset' : IsSolid offset := by
      rcases hoffset with rfl | hoffset
      · exact isSolid_nil
      · exact hoffset.isSolid
    obtain ⟨after, rfl, hafter⟩ := hdate.isSolid.exists_of_append (hcs.symm.trans hraw) hc
    rcases htime with rfl | htime
    · exact absurd (hoffset'.not_blank hafter) hnot
    · obtain ⟨separator, rest, rfl, hseparator, hrest⟩ := htime.exists_cons
      cases after with
      | nil =>
        obtain ⟨rfl, -⟩ := List.cons.inj hafter
        exact ⟨eq_space_of_mem_separators hseparator (Or.inr hc), by rwa [List.append_nil]⟩
      | cons d after =>
        have htail : rest ++ offset = after ++ c :: back := (List.cons.inj hafter).2
        exact absurd ((isSolid_append.mpr ⟨hrest, hoffset'⟩).not_blank htail) hnot

end Position

/-- The last character is no white space. -/
def EndsSolid (cs : List Char) : Prop := ∃ front c, cs = front ++ [c] ∧ isBlankChar c = false

theorem EndsSolid.append {cs : List Char} (h : EndsSolid cs) (front : List Char) :
    EndsSolid (front ++ cs) := by
  obtain ⟨front', c, rfl, hc⟩ := h
  exact ⟨front ++ front', c, (List.append_assoc ..).symm, hc⟩

theorem IsSolid.endsSolid {cs : List Char} (h : IsSolid cs) (hne : cs ≠ []) : EndsSolid cs :=
  ⟨cs.dropLast, cs.getLast hne, (List.dropLast_concat_getLast hne).symm,
    h _ (List.getLast_mem hne)⟩

theorem TakesDigits.endsSolid {max : Nat} {ds rest : List Char} (h : TakesDigits max ds rest) :
    EndsSolid ds :=
  (isSolid_of_isDigit h.digits).endsSolid h.ne_nil

theorem IsOffset.endsSolid {middle : List Char → Prop} {offset : List Char}
    (h : IsOffset middle offset) : EndsSolid offset := by
  obtain ⟨sign, hours, between, minutes, rfl, -, -, -, hminutes, -⟩ := h
  have hends := (hminutes.takesDigits (by decide) []).endsSolid.append (sign :: (hours ++ between))
  rwa [List.cons_append, List.append_assoc] at hends

/-- What ends in digits or in an offset. -/
def Item.IsClosing : Item → Prop
  | .fixed _ | .number _ | .zone | .offset => True
  | _ => False

theorem Item.Takes.endsSolid {item : Item} {segment rest : List Char} (hitem : item.IsClosing)
    (h : item.Takes segment rest) : EndsSolid segment := by
  cases item with
  | fixed part => exact (IsDigits.takesDigits h (by decide) []).endsSolid
  | number part =>
    obtain ⟨blanks, ds, rfl, -, hds⟩ := h
    exact hds.endsSolid.append blanks
  | zone =>
    rcases h with rfl | rfl | h
    · exact ⟨[], 'Z', rfl, by decide⟩
    · exact ⟨[], 'z', rfl, by decide⟩
    · exact h.endsSolid
  | offset =>
    obtain ⟨blanks, offset, rfl, -, hoffset⟩ := h
    exact hoffset.endsSolid.append blanks
  | _ => exact hitem.elim

/-- The last items of a layout fit an end of the text. -/
theorem Layout.Fits.suffix {takes : Item → List Char → List Char → Prop} {front back : Layout}
    {cs : List Char} (h : Layout.Fits takes (front ++ back) cs) :
    ∃ before after, cs = before ++ after ∧ Layout.Fits takes back after := by
  induction front generalizing cs with
  | nil => exact ⟨[], cs, rfl, h⟩
  | cons item front ih =>
    obtain ⟨segment, rest, rfl, -, hrest⟩ := h
    obtain ⟨before, after, rfl, hafter⟩ := ih hrest
    exact ⟨segment ++ before, after, (List.append_assoc ..).symm, hafter⟩

theorem TakesFraction.append_endsSolid {cs fraction rest : List Char} (hcs : EndsSolid cs)
    (h : TakesFraction fraction rest) : EndsSolid (cs ++ fraction) := by
  rcases h with ⟨rfl, -⟩ | ⟨ds, rfl, hne, hds, -⟩
  · rwa [List.append_nil]
  · have hends : EndsSolid ('.' :: ds) := ((isSolid_of_isDigit hds).endsSolid hne).append ['.']
    exact hends.append cs

/-- Every layout ends with a number, with a fraction after a number, or with an offset. -/
theorem exists_closing_of_mem_layouts {layout : Layout} (h : layout ∈ layouts) :
    ∃ front item last, layout = front ++ item :: last ∧ item.IsClosing ∧
      (last = [] ∨ last = [.fraction]) := by
  simp only [layouts, List.mem_cons, List.not_mem_nil, or_false] at h
  rcases h with rfl | rfl | rfl | rfl | rfl | rfl | rfl
  · exact ⟨internetLayout.dropLast, .zone, [], rfl, trivial, Or.inl rfl⟩
  · exact ⟨_, .offset, [], rfl, trivial, Or.inl rfl⟩
  · exact ⟨_, .offset, [], rfl, trivial, Or.inl rfl⟩
  · exact ⟨looseDate ++ .mark ['T'] :: (looseMinutes ++ [.mark [':']]), .number .second, _, rfl,
      trivial, Or.inr rfl⟩
  · exact ⟨looseDate ++ .blanks :: (looseMinutes ++ [.mark [':']]), .number .second, _, rfl,
      trivial, Or.inr rfl⟩
  · exact ⟨looseDate ++ [.mark ['T'], .number .hour, .mark [':']], .number .minute, [], rfl,
      trivial, Or.inl rfl⟩
  · exact ⟨looseDate.dropLast, .number .day, [], rfl, trivial, Or.inl rfl⟩

theorem endsSolid_of_fits {layout : Layout} {cs : List Char} (hlayout : layout ∈ layouts)
    (h : layout.Fits Item.Takes cs) : EndsSolid cs := by
  obtain ⟨front, item, last, rfl, hitem, hlast⟩ := exists_closing_of_mem_layouts hlayout
  obtain ⟨before, _, rfl, segment, rest, rfl, htakes, hrest⟩ := h.suffix
  have hsegment := htakes.endsSolid hitem
  rcases hlast with rfl | rfl
  · obtain rfl : rest = [] := hrest
    rw [List.append_nil]
    exact hsegment.append before
  · obtain ⟨fraction, _, rfl, hfraction, rfl⟩ := hrest
    rw [List.append_nil]
    exact (TakesFraction.append_endsSolid hsegment hfraction).append before

/-! ## Accepted timestamps -/

theorem Numeral.ofChars?_isSome_iff {cs : List Char} :
    (Numeral.ofChars? cs).isSome ↔ IsNumber cs := by
  have hnumeral : ∀ {ds : List Char} {negative : Bool},
      (if isNumeral ds then some (⟨negative, ds⟩ : Numeral) else none).isSome ↔
        ds ≠ [] ∧ ds.all Char.isDigit = true := by
    intro ds negative
    rw [← isNumeral_iff]
    split <;> simp [*]
  have hminus : ∀ {ds : List Char}, ¬ ('-' :: ds).all Char.isDigit = true := by
    intro ds h
    exact absurd (List.all_eq_true.mp h _ List.mem_cons_self) (by decide)
  unfold Numeral.ofChars? IsNumber
  split
  · next ds =>
    rw [hnumeral]
    constructor
    · rintro ⟨hne, hds⟩
      exact ⟨ds, hne, hds, Or.inr rfl⟩
    · rintro ⟨ds', hne, hds', rfl | hcs⟩
      · exact absurd hds' hminus
      · obtain ⟨-, rfl⟩ := List.cons.inj hcs
        exact ⟨hne, hds'⟩
  · next hsign =>
    rw [hnumeral]
    constructor
    · rintro ⟨hne, hds⟩
      exact ⟨cs, hne, hds, Or.inl rfl⟩
    · rintro ⟨ds, hne, hds, rfl | rfl⟩
      · exact ⟨hne, hds⟩
      · exact absurd rfl (hsign ds)

/-- An accepted timestamp is a number, or a layout reads it. In the latter case it is documented if
and only if every segment that the layout takes has its documented form: a year of four digits
without a sign, other numbers of two digits, one space where white space may stand and none
elsewhere, and at most one colon in the offset. Whatever is accepted does not end in white space,
and where it is documented its only white space is a space after the date. -/
theorem accepted_documented_iff (raw : String) (t : Instant) (h : read? .flexible raw = some t) :
    (IsNumber raw.toList ∨ ∃ layout ∈ layouts, layout.instant? raw.toList = some t ∧
      layout.Fits Item.Takes raw.toList ∧
      (IsDocumented raw ↔ layout.Fits Item.TakesPlain raw.toList)) ∧
    (∃ front c, raw.toList = front ++ [c] ∧ isBlankChar c = false) ∧
    (IsDocumented raw → ∀ front c back, raw.toList = front ++ c :: back → isBlankChar c = true →
      c = ' ' ∧ IsDate front) := by
  refine and_assoc.mp ⟨?_, fun hdocumented _ _ _ => hdocumented.blank⟩
  have hread : flexible? raw.toList = some t := h
  unfold flexible? at hread
  split at hread
  · next n hn =>
    have hnumber : IsNumber raw.toList := Numeral.ofChars?_isSome_iff.mp (by rw [hn]; rfl)
    have hne : raw.toList ≠ [] := by
      obtain ⟨ds, hne, -, hcs | hcs⟩ := hnumber <;> rw [hcs]
      · exact hne
      · exact nofun
    exact ⟨Or.inl hnumber, hnumber.isSolid.endsSolid hne⟩
  · next hn =>
    have hnumber : ¬ IsNumber raw.toList := by
      rw [← Numeral.ofChars?_isSome_iff, hn]
      exact nofun
    obtain ⟨layout, hlayout, hinstant⟩ := List.exists_of_findSome?_eq_some hread
    obtain ⟨g, hscan, -⟩ := Option.bind_eq_some_iff.mp hinstant
    have hfits := (layout.exists_scan_iff {}).mp ⟨g, hscan⟩
    have hiff : IsDocumented raw ↔ layout.Fits Item.TakesPlain raw.toList :=
      (or_iff_right hnumber).trans (isIso_iff_of_fits hlayout hfits)
    exact ⟨Or.inr ⟨layout, hlayout, hinstant, hfits, hiff⟩, endsSolid_of_fits hlayout hfits⟩

/-- A space may separate the date from the time of day, and it is the only one. -/
theorem accepted_documented_iff_of_samples :
    read? .flexible "2025-09-15 18:21:01.5" = some ⟨1757960461, 500000000⟩ ∧
    IsDocumented "2025-09-15 18:21:01.5" ∧ IsDate "2025-09-15".toList ∧
    read? .flexible "2025-9-15" = some ⟨1757894400, 0⟩ ∧
    ∃ front c, "2025-9-15".toList = front ++ [c] ∧ isBlankChar c = false := by
  have hspaced : read? .flexible "2025-09-15 18:21:01.5" = some ⟨1757960461, 500000000⟩ := by
    decide +kernel
  have hshort : read? .flexible "2025-9-15" = some ⟨1757894400, 0⟩ := by decide +kernel
  obtain ⟨-, -, hblank⟩ := accepted_documented_iff _ _ hspaced
  obtain ⟨-, hends, -⟩ := accepted_documented_iff _ _ hshort
  have hdocumented : IsDocumented "2025-09-15 18:21:01.5" := by
    refine Or.inr ⟨"2025-09-15".toList, " 18:21:01.5".toList, [], by decide +kernel,
      ⟨"2025".toList, "09".toList, "15".toList, ?_⟩,
      Or.inr ⟨' ', "18:21".toList, ":01.5".toList, by decide +kernel, by decide,
        ⟨"18".toList, "21".toList, ?_⟩,
        Or.inr ⟨"01".toList, ".5".toList, by decide +kernel, ?_, Or.inr ⟨['5'], ?_⟩⟩⟩,
      Or.inl rfl⟩ <;> decide +kernel
  obtain ⟨-, hdate⟩ := hblank hdocumented "2025-09-15".toList ' ' "18:21:01.5".toList
    (by decide +kernel) (by decide)
  exact ⟨hspaced, hdocumented, hdate, hshort, hends⟩

/-- White space before a date is read over, although a documented timestamp opens with none. -/
theorem blank_before_date_accepted :
    read? .flexible " 2025-09-15" = some ⟨1757894400, 0⟩ ∧ ¬ IsDocumented " 2025-09-15" := by
  refine ⟨by decide +kernel, fun h => ?_⟩
  obtain ⟨-, year, month, day, hdate, -⟩ :=
    h.blank (by decide +kernel : " 2025-09-15".toList = [] ++ ' ' :: "2025-09-15".toList)
      (by decide)
  simp at hdate

end WebhookGuard.Timestamp

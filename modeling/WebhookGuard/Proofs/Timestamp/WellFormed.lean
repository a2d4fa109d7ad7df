import WebhookGuard.Proofs.Time.Instant
import WebhookGuard.Proofs.Timestamp.Accepted

/-
  Timestamps name well-formed instants. Scanning an item keeps two things true of the fields: less
  than a second of nanoseconds, and an offset of whole minutes (`Fields.Regular`). An offset then
  never moves a leap second away from the end of a minute, and the calendar is checked after the
  offset was taken off, so the fields of any layout name a well-formed instant or none
  (`Fields.Regular.instant?`). A number never names a leap second.
-/
namespace WebhookGuard.Timestamp

open WebhookGuard.Time

/-! ## Numbers -/

/-- An instant that was checked against the calendar and has less than a second of nanoseconds. -/
theorem wellFormed_of_inRange? {t r : Instant} (h : Instant.inRange? t = some r)
    (ht : t.Ordinary) : r.WellFormed ∧ r.Ordinary := by
  obtain ⟨hrange, rfl⟩ := Instant.inRange?_eq_some.mp h
  exact ⟨⟨hrange, Or.inl ht⟩, ht⟩

theorem wellFormed_of_ofSecs? {n : Int} {t : Instant} (h : Instant.ofSecs? n = some t) :
    t.WellFormed ∧ t.Ordinary :=
  wellFormed_of_inRange? h (by decide : 0 < Instant.nanosPerSec)

theorem wellFormed_of_ofMillis? {n : Int} {t : Instant} (h : Instant.ofMillis? n = some t) :
    t.WellFormed ∧ t.Ordinary := by
  refine wellFormed_of_inRange? h ?_
  rw [Instant.ordinary_iff]
  dsimp only
  omega

theorem Numeral.wellFormed_of_instant? {n : Numeral} {t : Instant} (h : n.instant? = some t) :
    t.WellFormed ∧ t.Ordinary := by
  obtain ⟨-, hunit⟩ := Option.ite_none_right_eq_some.mp h
  split at hunit
  · exact wellFormed_of_ofMillis? hunit
  · exact wellFormed_of_ofSecs? hunit

/-! ## Fields -/

/-- Less than a second of nanoseconds, and an offset of whole minutes. -/
structure Fields.Regular (f : Fields) : Prop where
  nanos_lt : f.nanos < 1000000000
  offset_mod : f.offset % 60 = 0

theorem Fields.regular_default : ({} : Fields).Regular := ⟨by decide, by decide⟩

theorem Fields.Regular.set {f : Fields} (h : f.Regular) (part : Part) (n : Nat) :
    (f.set part n).Regular := by
  cases part <;> exact ⟨h.nanos_lt, h.offset_mod⟩

/-- The digits that count are at most nine, and they are filled up to nine. -/
theorem fractionNanos_lt {ds : List Char} (h : ds.all Char.isDigit = true) :
    fractionNanos ds < 1000000000 := by
  have hkept : (ds.take 9).all Char.isDigit = true :=
    List.all_eq_true.mpr fun c hc => List.all_eq_true.mp h c (List.mem_of_mem_take hc)
  have hlen : (ds.take 9).length ≤ 9 := by
    rw [List.length_take]
    omega
  calc fractionNanos ds
      = digitsValue (ds.take 9) * 10 ^ (9 - (ds.take 9).length) := rfl
    _ < 10 ^ (ds.take 9).length * 10 ^ (9 - (ds.take 9).length) :=
        Nat.mul_lt_mul_of_pos_right (digitsValue_lt hkept) (Nat.pow_pos (by decide))
    _ = 10 ^ 9 := by rw [← Nat.pow_add, Nat.add_sub_cancel' hlen]

theorem fraction?_lt {cs rest : List Char} {n : Nat} (h : fraction? cs = some (n, rest)) :
    n < 1000000000 := by
  unfold fraction? at h
  split at h
  · next cs =>
    obtain ⟨-, hdigits, -⟩ := takeDigits_eq_iff.mp (Prod.eta (takeDigits cs.length cs)).symm
    obtain ⟨-, hread⟩ := Option.ite_none_left_eq_some.mp h
    obtain ⟨rfl, -⟩ := Prod.mk.inj (Option.some.inj hread)
    exact fractionNanos_lt hdigits
  · obtain ⟨rfl, -⟩ := Prod.mk.inj (Option.some.inj h)
    decide

theorem signedOffset?_mod {between : List Char → Option (List Char)} {cs rest : List Char}
    {n : Int} (h : signedOffset? between cs = some (n, rest)) : n % 60 = 0 := by
  cases cs with
  | nil => cases h
  | cons sign cs =>
    obtain ⟨west, -, h₁⟩ := Option.bind_eq_some_iff.mp h
    obtain ⟨⟨hours, afterHours⟩, -, h₂⟩ := Option.bind_eq_some_iff.mp h₁
    obtain ⟨afterBetween, -, h₃⟩ := Option.bind_eq_some_iff.mp h₂
    obtain ⟨⟨minutes, afterMinutes⟩, -, h₄⟩ := Option.bind_eq_some_iff.mp h₃
    obtain ⟨-, h₅⟩ := Option.ite_none_right_eq_some.mp h₄
    obtain ⟨rfl, -⟩ := Prod.mk.inj (Option.some.inj h₅)
    cases west <;> simp <;> omega

theorem zone?_mod {cs rest : List Char} {n : Int} (h : zone? cs = some (n, rest)) :
    n % 60 = 0 := by
  unfold zone? at h
  split at h
  · obtain ⟨rfl, -⟩ := Prod.mk.inj (Option.some.inj h)
    rfl
  · obtain ⟨rfl, -⟩ := Prod.mk.inj (Option.some.inj h)
    rfl
  · exact signedOffset?_mod h

/-- What is read goes into the fields. -/
theorem exists_of_map_eq_some {α : Type} {read : Option (α × List Char)}
    {f : α × List Char → Fields × List Char} {g : Fields} {rest : List Char}
    (h : read.map f = some (g, rest)) : ∃ n after, read = some (n, after) ∧ (f (n, after)).1 = g := by
  obtain ⟨⟨n, after⟩, hread, heq⟩ := Option.map_eq_some_iff.mp h
  exact ⟨n, after, hread, congrArg Prod.fst heq⟩

/-- Whatever an item adds, the fields stay regular. -/
theorem Item.scan_regular {item : Item} {f g : Fields} {cs rest : List Char} (hf : f.Regular)
    (h : item.scan f cs = some (g, rest)) : g.Regular := by
  cases item with
  | fixedYear | year =>
    obtain ⟨n, after, -, rfl⟩ := exists_of_map_eq_some h
    exact ⟨hf.nanos_lt, hf.offset_mod⟩
  | fixed part | number part =>
    obtain ⟨n, after, -, rfl⟩ := exists_of_map_eq_some h
    exact hf.set part n
  | mark choices =>
    cases cs with
    | nil => cases h
    | cons c cs =>
      obtain ⟨-, heq⟩ := Option.ite_none_right_eq_some.mp h
      obtain ⟨rfl, -⟩ := Prod.mk.inj (Option.some.inj heq)
      exact hf
  | blanks =>
    obtain ⟨rfl, -⟩ := Prod.mk.inj (Option.some.inj h)
    exact hf
  | fraction =>
    obtain ⟨n, after, hread, rfl⟩ := exists_of_map_eq_some h
    exact ⟨fraction?_lt hread, hf.offset_mod⟩
  | zone =>
    obtain ⟨n, after, hread, rfl⟩ := exists_of_map_eq_some h
    exact ⟨hf.nanos_lt, zone?_mod hread⟩
  | offset =>
    obtain ⟨n, after, hread, rfl⟩ := exists_of_map_eq_some h
    exact ⟨hf.nanos_lt, signedOffset?_mod hread⟩

theorem Layout.scan_regular {layout : Layout} {f g : Fields} {cs : List Char} (hf : f.Regular)
    (h : layout.scan f cs = some g) : g.Regular := by
  induction layout generalizing f cs with
  | nil =>
    cases cs with
    | nil => exact Option.some.inj h ▸ hf
    | cons c cs => cases h
  | cons item items ih =>
    rw [scan] at h
    split at h
    · cases h
    · next next rest hitem => exact ih (Item.scan_regular hf hitem) h

/-- A leap second is the sixtieth of its minute, in local time and so in any zone whose offset is of
whole minutes. -/
theorem Fields.Regular.instant? {f : Fields} (hf : f.Regular) {t : Instant}
    (h : f.instant? = some t) : t.WellFormed := by
  obtain ⟨hvalid, hchecked⟩ := Option.ite_none_right_eq_some.mp h
  obtain ⟨hrange, rfl⟩ := Instant.inRange?_eq_some.mp hchecked
  have hnanos := hf.nanos_lt
  have hoffset := hf.offset_mod
  refine ⟨hrange, ?_⟩
  by_cases hleap : f.second = 60
  · -- A day is of whole minutes, and so is the offset: what is left of the minute is second 59.
    right
    simp only [secOfDay, Instant.secsPerDay, Instant.nanosPerSec, hleap, if_true]
    omega
  · left
    rw [Instant.ordinary_iff]
    simpa only [if_neg hleap, Nat.add_zero] using hnanos

/-! ## Texts -/

theorem wellFormed_of_calendar? {cs : List Char} {t : Instant} (h : calendar? cs = some t) :
    t.WellFormed := by
  obtain ⟨layout, -, hlayout⟩ := List.exists_of_findSome?_eq_some h
  obtain ⟨f, hscan, hinstant⟩ := Option.bind_eq_some_iff.mp hlayout
  exact (Layout.scan_regular Fields.regular_default hscan).instant? hinstant

/-- Every timestamp that is read names a well-formed instant, and outside any leap second if it is a
number. -/
theorem wellFormed_of_read? {policy : TimestampPolicy} {raw : String} {t : Instant}
    (h : read? policy raw = some t) : t.WellFormed ∧ (IsNumber raw.toList → t.Ordinary) := by
  have hread := flexible?_of_read? h
  rw [← Numeral.ofChars?_isSome_iff]
  unfold flexible? at hread
  split at hread
  · obtain ⟨hwf, hord⟩ := Numeral.wellFormed_of_instant? hread
    exact ⟨hwf, fun _ => hord⟩
  · next hnone =>
    refine ⟨wellFormed_of_calendar? hread, ?_⟩
    rw [hnone]
    exact nofun

end WebhookGuard.Timestamp

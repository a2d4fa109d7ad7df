import WebhookGuard.Proofs.Time.Instant
import WebhookGuard.Proofs.Timestamp.Blank
import WebhookGuard.Proofs.Timestamp.Digits

/-
  Numbers as timestamps, in full. A number of up to twelve digits always names an instant, the
  second that it counts (`Numeral.instant?_of_short`). A longer one counts milliseconds, and names
  an instant as far as a word and the calendar reach (`Numeral.instant?_of_long`). No layout of a
  calendar timestamp fits a number, since a mark follows the year in each
  (`Numeral.calendar?_chars`). Whole seconds written either way name the same instant, as long as
  the digits tell the units apart (`numbers_read`).
-/
namespace WebhookGuard.Timestamp

open WebhookGuard.Text

namespace Numeral

variable {n : Numeral}

/-- A number as it is written. -/
def chars (n : Numeral) : List Char := if n.negative then '-' :: n.digits else n.digits

/-- The number that an integer is written as. -/
def ofInt (s : Int) : Numeral := ⟨decide (s < 0), Nat.toDigits 10 s.natAbs⟩

theorem ofChars?_chars (h : isNumeral n.digits = true) : ofChars? n.chars = some n := by
  obtain ⟨negative, ds⟩ := n
  cases negative with
  | false => exact ofChars?_of_isNumeral h
  | true => exact if_pos h

theorem flexible?_chars (h : isNumeral n.digits = true) : flexible? n.chars = n.instant? := by
  unfold flexible?
  rw [ofChars?_chars h]

theorem natAbs_value (n : Numeral) : n.value.natAbs = digitsValue n.digits := by
  unfold value
  split <;> omega

/-! ## Seconds -/

theorem natAbs_value_lt (h : isNumeral n.digits = true) (hlen : n.digits.length ≤ 12) :
    n.value.natAbs < 10 ^ 12 := by
  rw [natAbs_value]
  exact Nat.lt_of_lt_of_le (digitsValue_lt (isNumeral_iff.mp h).2)
    (Nat.pow_le_pow_right (by decide) hlen)

/-- The calendar holds every second that twelve digits count. -/
theorem ofSecs?_of_lt {s : Int} (h : s.natAbs < 10 ^ 12) : Instant.ofSecs? s = some ⟨s, 0⟩ := by
  have hrange : Instant.firstSec ≤ s ∧ s ≤ Instant.lastSec := by
    unfold Instant.firstSec Instant.lastSec
    omega
  exact if_pos hrange

/-- Twelve digits fit a word as well. -/
theorem instant?_of_short (h : isNumeral n.digits = true) (hlen : n.digits.length ≤ 12) :
    n.instant? = some ⟨n.value, 0⟩ := by
  have hlt := natAbs_value_lt h hlen
  have hfits : n.Fits := by
    unfold Fits
    omega
  unfold instant? millisDigits
  rw [if_pos hfits, if_neg (by omega), ofSecs?_of_lt hlt]

/-! ## Milliseconds -/

/-- The second that a number of milliseconds lies in is within the calendar. -/
def MillisInRange (n : Numeral) : Prop :=
  Instant.firstSec ≤ n.value / 1000 ∧ n.value / 1000 ≤ Instant.lastSec

instance (n : Numeral) : Decidable n.MillisInRange := inferInstanceAs (Decidable (_ ∧ _))

theorem instant?_of_long (hlen : 13 ≤ n.digits.length) :
    n.instant? = if n.Fits ∧ n.MillisInRange then
      some ⟨n.value / 1000, (n.value % 1000).toNat * 1000000⟩ else none := by
  unfold instant? millisDigits Instant.ofMillis? Instant.inRange?
  rw [if_pos hlen]
  by_cases hfits : n.Fits
  · simp only [hfits, if_true, true_and]
    rfl
  · rw [if_neg hfits, if_neg fun h => hfits h.1]

/-! ## Whole seconds in both units -/

theorem isNumeral_ofInt (s : Int) : isNumeral (ofInt s).digits = true := isNumeral_toDigits _

theorem value_ofInt (s : Int) : (ofInt s).value = s := by
  unfold value ofInt
  rw [digitsValue_toDigits]
  by_cases hs : s < 0
  · simp only [hs, decide_true, if_true]
    omega
  · simp only [hs, decide_false, Bool.false_eq_true, if_false]
    omega

/-- Integers are printed as they are read. -/
theorem toList_toString (s : Int) : (toString s).toList = (ofInt s).chars := by
  unfold chars ofInt
  rw [Int.toString_eq_repr, Int.repr_eq_if]
  by_cases hs : s < 0
  · have habs : (-s).toNat = s.natAbs := by omega
    rw [if_neg (by omega), String.toList_append, Nat.repr_eq_ofList_toDigits, String.toList_ofList,
      habs]
    simp [hs]
  · have habs : s.toNat = s.natAbs := by omega
    rw [if_pos (by omega), Nat.repr_eq_ofList_toDigits, String.toList_ofList, habs]
    simp [hs]

theorem length_ofInt_le_iff (s : Int) : (ofInt s).digits.length ≤ 12 ↔ s.natAbs < 10 ^ 12 :=
  Nat.length_toDigits_le_iff (by decide) (by decide)

theorem read?_toString_of_short {s : Int} (h : s.natAbs < 10 ^ 12) :
    read? .flexible (toString s) = some ⟨s, 0⟩ := by
  show flexible? (toString s).toList = _
  rw [toList_toString, flexible?_chars (isNumeral_ofInt s),
    instant?_of_short (isNumeral_ofInt s) ((length_ofInt_le_iff s).mpr h), value_ofInt]

/-- From thirteen digits on a number of whole seconds may be given in milliseconds. -/
theorem read?_toString_of_millis {s : Int} (h : 10 ^ 9 ≤ s.natAbs) (h' : s.natAbs < 10 ^ 12) :
    read? .flexible (toString (1000 * s)) = some ⟨s, 0⟩ := by
  have hlong : 13 ≤ (ofInt (1000 * s)).digits.length := by
    have hle := not_congr (length_ofInt_le_iff (1000 * s))
    omega
  have hread : (ofInt (1000 * s)).Fits ∧ (ofInt (1000 * s)).MillisInRange := by
    unfold Fits MillisInRange Instant.firstSec Instant.lastSec
    rw [value_ofInt]
    omega
  have hsecs : 1000 * s / 1000 = s := by omega
  have hrest : (1000 * s % 1000).toNat * 1000000 = 0 := by omega
  show flexible? (toString (1000 * s)).toList = _
  rw [toList_toString, flexible?_chars (isNumeral_ofInt _), instant?_of_long hlong, if_pos hread,
    value_ofInt, hsecs, hrest]

end Numeral

/-! ## The strict policy -/

/-- The strict policy reads one to twelve digits and nothing else. -/
theorem isSome_strict?_iff {cs : List Char} :
    (strict? cs).isSome ↔ cs ≠ [] ∧ cs.length ≤ 12 ∧ cs.all Char.isDigit = true := by
  constructor
  · intro h
    unfold strict? millisDigits at h
    split at h
    · next hs =>
      obtain ⟨hne, hall⟩ := isNumeral_iff.mp hs.1
      exact ⟨hne, Nat.le_of_lt_succ hs.2, hall⟩
    · cases h
  · rintro ⟨hne, hlen, hall⟩
    have hn : isNumeral cs = true := isNumeral_iff.mpr ⟨hne, hall⟩
    have hread : strict? cs = some ⟨digitsValue cs, 0⟩ := by
      unfold strict? millisDigits
      rw [if_pos ⟨hn, Nat.lt_succ_of_le hlen⟩]
      exact Numeral.ofSecs?_of_lt (@Numeral.natAbs_value_lt ⟨false, cs⟩ hn hlen)
    rw [hread]
    rfl

/-! ## Numbers are no dates -/

/-- Every layout has a mark after the year. -/
theorem exists_mark_of_mem_layouts {layout : Layout} (h : layout ∈ layouts) :
    ∃ items, layout = .fixedYear :: .mark ['-'] :: items ∨
      layout = .year :: .mark ['-'] :: items := by
  have hall : ∀ layout ∈ layouts, layout.take 2 = [.fixedYear, .mark ['-']] ∨
      layout.take 2 = [.year, .mark ['-']] := by decide
  refine ⟨layout.drop 2, (hall layout h).imp ?_ ?_⟩
  · intro htake
    rw [← List.take_append_drop 2 layout, htake]
    rfl
  · intro htake
    rw [← List.take_append_drop 2 layout, htake]
    rfl

/-- What follows the digits that are taken of digits is digits. -/
theorem all_isDigit_of_takeDigits {cs ds rest : List Char} {max : Nat}
    (h : cs.all Char.isDigit = true) (htake : takeDigits max cs = (ds, rest)) :
    rest.all Char.isDigit = true := by
  rw [← takeDigits_append_eq max cs, htake, List.all_append, Bool.and_eq_true] at h
  exact h.2

/-- After the year of a layout only digits are left of a number. -/
theorem all_isDigit_of_scan_year {n : Numeral} (h : isNumeral n.digits = true) {item : Item}
    {f g : Fields} {rest : List Char} (hitem : item = .fixedYear ∨ item = .year)
    (hscan : item.scan f n.chars = some (g, rest)) : rest.all Char.isDigit = true := by
  obtain ⟨negative, ds⟩ := n
  obtain ⟨hne, hall⟩ := isNumeral_iff.mp h
  obtain ⟨d, ds, rfl⟩ := List.exists_cons_of_ne_nil hne
  have hd : d.isDigit = true := List.all_eq_true.mp hall d List.mem_cons_self
  rcases hitem with rfl | rfl
  · cases negative with
    | true => cases hscan
    | false =>
      obtain ⟨⟨k, rest⟩, hnumber, heq⟩ := Option.map_eq_some_iff.mp hscan
      obtain ⟨-, rfl⟩ := Prod.mk.inj heq
      obtain ⟨_, htake, -⟩ := fixedNumber?_eq_some_iff.mp hnumber
      exact all_isDigit_of_takeDigits hall htake
  · obtain ⟨⟨k, rest⟩, hyear, heq⟩ := Option.map_eq_some_iff.mp hscan
    obtain ⟨-, rfl⟩ := Prod.mk.inj heq
    cases negative with
    | true =>
      obtain ⟨⟨k, rest⟩, hnumber, heq⟩ := Option.map_eq_some_iff.mp hyear
      obtain ⟨-, rfl⟩ := Prod.mk.inj heq
      obtain ⟨_, htake, -⟩ := shortNumber?_eq_some_iff.mp hnumber
      exact all_isDigit_of_takeDigits hall htake
    | false =>
      rw [show Numeral.chars ⟨false, d :: ds⟩ = d :: ds from rfl, skipBlanks_of_isDigit hd,
        year?_of_isDigit hd] at hyear
      obtain ⟨⟨k, rest⟩, hnumber, heq⟩ := Option.map_eq_some_iff.mp hyear
      obtain ⟨-, rfl⟩ := Prod.mk.inj heq
      obtain ⟨_, htake, -⟩ := shortNumber?_eq_some_iff.mp hnumber
      exact all_isDigit_of_takeDigits hall htake

/-- No hyphen stands among digits. -/
theorem scan_hyphen_of_all {cs : List Char} (h : cs.all Char.isDigit = true) (f : Fields) :
    Item.scan (.mark ['-']) f cs = none := by
  cases cs with
  | nil => rfl
  | cons c cs =>
    have hc : c ≠ '-' := by
      rintro rfl
      exact absurd (List.all_eq_true.mp h '-' List.mem_cons_self) (by decide)
    simp [Item.scan, hc]

/-- A number has the form of no date. -/
theorem Numeral.calendar?_chars {n : Numeral} (h : isNumeral n.digits = true) :
    calendar? n.chars = none := by
  have hlayout : ∀ (item : Item) (items : Layout), item = .fixedYear ∨ item = .year →
      Layout.instant? (item :: .mark ['-'] :: items) n.chars = none := by
    intro item items hitem
    unfold Layout.instant? Layout.scan
    split
    · rfl
    · next g rest hscan =>
      rw [Layout.scan, scan_hyphen_of_all (all_isDigit_of_scan_year h hitem hscan)]
      rfl
  refine List.findSome?_eq_none_iff.mpr fun layout hl => ?_
  obtain ⟨items, rfl | rfl⟩ := exists_mark_of_mem_layouts hl
  · exact hlayout _ _ (Or.inl rfl)
  · exact hlayout _ _ (Or.inr rfl)

/-! ## Numbers in full -/

/-- Under the strict policy one to twelve digits are read, and as under the flexible one. There a
number of up to twelve digits is always read, as seconds, and a longer one as milliseconds as far as
a word and the calendar reach; neither has the form of a date. Integers of ten to twelve digits name
the same instant in both units. -/
theorem numbers_read :
    (∀ raw : String, (read? .unixSecondsStrict raw).isSome ↔
      raw.toList ≠ [] ∧ raw.toList.length ≤ 12 ∧ raw.toList.all Char.isDigit = true) ∧
    (∀ (raw : String) (t : Instant), read? .unixSecondsStrict raw = some t →
      read? .flexible raw = some t) ∧
    (∀ (raw : String) (n : Numeral), raw.toList = n.chars → n.digits ≠ [] →
      n.digits.all Char.isDigit = true →
      (n.digits.length ≤ 12 → read? .flexible raw = some ⟨n.value, 0⟩) ∧
      (13 ≤ n.digits.length → read? .flexible raw =
        if n.Fits ∧ n.MillisInRange then
          some ⟨n.value / 1000, (n.value % 1000).toNat * 1000000⟩ else none) ∧
      calendar? raw.toList = none) ∧
    ∀ s : Int, 10 ^ 9 ≤ s.natAbs → s.natAbs < 10 ^ 12 →
      read? .flexible (toString s) = some ⟨s, 0⟩ ∧
      read? .flexible (toString (1000 * s)) = some ⟨s, 0⟩ := by
  refine ⟨fun raw => isSome_strict?_iff, fun raw t h => flexible?_of_strict? h, ?_, ?_⟩
  · intro raw n hraw hne hall
    have hn : isNumeral n.digits = true := isNumeral_iff.mpr ⟨hne, hall⟩
    have hread : read? .flexible raw = n.instant? := by
      show flexible? raw.toList = _
      rw [hraw, Numeral.flexible?_chars hn]
    rw [hread, hraw]
    exact ⟨Numeral.instant?_of_short hn, Numeral.instant?_of_long, Numeral.calendar?_chars hn⟩
  · intro s h h'
    exact ⟨Numeral.read?_toString_of_short h', Numeral.read?_toString_of_millis h h'⟩

/-- Read are ten digits under both policies, twelve and thirteen digits with leading zeros before
1970, and a whole second in both units; nineteen nines are too many. -/
theorem numbers_read_of_samples :
    (read? .unixSecondsStrict "1757962690").isSome ∧
    read? .flexible "1757962690" = some ⟨1757962690, 0⟩ ∧
    read? .flexible "-000000000999" = some ⟨-999, 0⟩ ∧
    read? .flexible "-0000000000999" = some ⟨-1, 1000000⟩ ∧
    read? .flexible "9999999999999999999" = none ∧
    read? .flexible (toString (1000 * (-1757962690) : Int)) = some ⟨-1757962690, 0⟩ := by
  obtain ⟨hstrict, hagree, hnumbers, hunits⟩ := numbers_read
  refine ⟨?_, ?_, ?_, ?_, ?_, ?_⟩
  · exact (hstrict "1757962690").mpr (by decide +kernel)
  · exact hagree "1757962690" _ (by decide +kernel)
  · have hread := (hnumbers "-000000000999" ⟨true, "000000000999".toList⟩ (by decide +kernel)
      (by decide +kernel) (by decide +kernel)).1 (by decide +kernel)
    exact hread.trans (by decide +kernel)
  · have hread := (hnumbers "-0000000000999" ⟨true, "0000000000999".toList⟩ (by decide +kernel)
      (by decide +kernel) (by decide +kernel)).2.1 (by decide +kernel)
    exact hread.trans (by decide +kernel)
  · have hread := (hnumbers "9999999999999999999" ⟨false, "9999999999999999999".toList⟩
      (by decide +kernel) (by decide +kernel) (by decide +kernel)).2.1 (by decide +kernel)
    exact hread.trans (by decide +kernel)
  · exact (hunits (-1757962690) (by decide) (by decide)).2

end WebhookGuard.Timestamp

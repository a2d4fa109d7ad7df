import WebhookGuard.Timestamp.Read

/-
  Numbers as timestamps. The digits of a number bound its value, so the twelve digits of the
  strict policy always fit a word; and the two policies never disagree: a text that names an
  instant under both names the same one (`read?_unique`).
-/
namespace WebhookGuard.Timestamp

theorem toNat_le_of_isDigit {c : Char} (h : c.isDigit = true) : c.toNat - 48 ≤ 9 := by
  simp only [Char.isDigit, Bool.and_eq_true, decide_eq_true_eq, UInt32.le_iff_toNat_le] at h
  have hc : c.toNat ≤ 57 := h.2
  omega

theorem foldl_digits_lt (ds : List Char) (h : ds.all Char.isDigit = true) (n : Nat) :
    ds.foldl (fun n c => 10 * n + (c.toNat - 48)) n < (n + 1) * Nat.pow 10 ds.length := by
  induction ds generalizing n with
  | nil => simp
  | cons c ds ih =>
    rw [List.all_cons, Bool.and_eq_true] at h
    have hc := toNat_le_of_isDigit h.1
    rw [List.foldl_cons]
    calc ds.foldl (fun n c => 10 * n + (c.toNat - 48)) (10 * n + (c.toNat - 48))
        < (10 * n + (c.toNat - 48) + 1) * Nat.pow 10 ds.length := ih h.2 _
      _ ≤ ((n + 1) * 10) * Nat.pow 10 ds.length := Nat.mul_le_mul_right _ (by omega)
      _ = (n + 1) * (Nat.pow 10 ds.length * 10) := by rw [Nat.mul_assoc, Nat.mul_comm 10]

/-- A number of `n` digits is below `10 ^ n`. -/
theorem digitsValue_lt {ds : List Char} (h : ds.all Char.isDigit = true) :
    digitsValue ds < Nat.pow 10 ds.length := by
  have hlt := foldl_digits_lt ds h 0
  rw [Nat.zero_add, Nat.one_mul] at hlt
  exact hlt

theorem isNumeral_iff {cs : List Char} :
    isNumeral cs = true ↔ cs ≠ [] ∧ cs.all Char.isDigit = true := by
  simp [isNumeral]

/-- Digits alone are a number without a sign. -/
theorem Numeral.ofChars?_of_isNumeral {cs : List Char} (h : isNumeral cs = true) :
    Numeral.ofChars? cs = some ⟨false, cs⟩ := by
  unfold Numeral.ofChars?
  split
  · next ds =>
    have hd := (isNumeral_iff.mp h).2
    simp [Char.isDigit] at hd
  · rw [if_pos h]

/-- Whatever the strict policy reads, the flexible one reads as the same instant. -/
theorem flexible?_of_strict? {cs : List Char} {t : Instant} (h : strict? cs = some t) :
    flexible? cs = some t := by
  unfold strict? at h
  split at h
  · next hs =>
    obtain ⟨hn, hlen⟩ := hs
    have hlt := digitsValue_lt (isNumeral_iff.mp hn).2
    have hpow : Nat.pow 10 cs.length ≤ Nat.pow 10 12 :=
      Nat.pow_le_pow_right (by decide) (by unfold millisDigits at hlen; omega)
    have h12 : Nat.pow 10 12 = 1000000000000 := rfl
    have hfits : (⟨false, cs⟩ : Numeral).Fits := by
      unfold Numeral.Fits Numeral.value
      simp only [Bool.false_eq_true, if_false]
      omega
    unfold flexible?
    rw [Numeral.ofChars?_of_isNumeral hn]
    show Numeral.instant? ⟨false, cs⟩ = some t
    unfold Numeral.instant?
    rw [if_pos hfits, if_neg (Nat.not_le_of_lt hlen)]
    exact h
  · cases h

theorem flexible?_of_read? {policy : TimestampPolicy} {raw : String} {t : Instant}
    (h : read? policy raw = some t) : flexible? raw.toList = some t := by
  cases policy with
  | flexible => exact h
  | unixSecondsStrict => exact flexible?_of_strict? h

/-- The policies agree on what they both read. -/
theorem read?_unique {p q : TimestampPolicy} {raw : String} {s t : Instant}
    (hs : read? p raw = some s) (ht : read? q raw = some t) : s = t := by
  have h := flexible?_of_read? hs
  rw [flexible?_of_read? ht] at h
  exact (Option.some.inj h).symm

end WebhookGuard.Timestamp

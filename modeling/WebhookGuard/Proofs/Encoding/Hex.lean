import WebhookGuard.Encoding.Hex

/-
  Hexadecimal read and written. A character has a value exactly when it is the digit of that value
  in either letter case (`value?_eq_some_iff`). So a text decodes to some bytes exactly when it
  becomes what is written for these bytes once its capital letters are made small
  (`decode_eq_some_iff`).
-/
namespace WebhookGuard.Encoding.Hex

/-! ## Digits -/

theorem value?_digit {n : Nat} (h : n < 16) : value? (digit n) = some n :=
  (by decide : ∀ n < 16, value? (digit n) = some n) n h

theorem lt_of_value? {c : Char} {n : Nat} (h : value? c = some n) : n < 16 := by
  unfold value? at h
  dsimp only at h
  split at h
  · injection h
    omega
  · split at h
    · injection h
      omega
    · split at h
      · injection h
        omega
      · cases h

/-- Beyond ASCII there are no digits. -/
theorem value?_eq_none {c : Char} (h : 128 ≤ c.toNat) : value? c = none := by
  unfold value?
  dsimp only
  rw [if_neg (by omega), if_neg (by omega), if_neg (by omega)]

/-- Beyond ASCII there are no capital letters. -/
theorem toLower_eq_self {c : Char} (h : 128 ≤ c.toNat) : c.toLower = c := by
  have hc : 128 ≤ c.val.toNat := h
  have hnot : ¬ (c.val ≥ 'A'.val ∧ c.val ≤ 'Z'.val) := by
    rintro ⟨-, hz⟩
    have hz' : c.val.toNat ≤ 90 := UInt32.le_iff_toNat_le.mp hz
    omega
  unfold Char.toLower
  rw [dif_neg hnot]

theorem value?_toLower (c : Char) : value? c.toLower = value? c := by
  by_cases hc : c.toNat < 128
  · have hascii : ∀ k < 128, value? (Char.ofNat k).toLower = value? (Char.ofNat k) := by
      decide +kernel
    have h := hascii c.toNat hc
    rwa [Char.ofNat_toNat] at h
  · rw [toLower_eq_self (by omega)]

/-- The characters with a value are the digits, in either letter case. -/
theorem value?_eq_some_iff {c : Char} {n : Nat} :
    value? c = some n ↔ n < 16 ∧ c.toLower = digit n := by
  by_cases hc : c.toNat < 128
  · have hascii : ∀ k < 128, ∀ m < 16,
        value? (Char.ofNat k) = some m ↔ (Char.ofNat k).toLower = digit m := by decide +kernel
    have hn := hascii c.toNat hc n
    rw [Char.ofNat_toNat] at hn
    constructor
    · intro h
      exact ⟨lt_of_value? h, (hn (lt_of_value? h)).mp h⟩
    · rintro ⟨hlt, h⟩
      exact (hn hlt).mpr h
  · have hdigit : ∀ m < 16, (digit m).toNat < 128 := by decide
    rw [value?_eq_none (by omega), toLower_eq_self (by omega)]
    constructor
    · intro h
      cases h
    · rintro ⟨hlt, rfl⟩
      exact absurd (hdigit n hlt) hc

/-! ## Texts -/

theorem encode_cons (b : UInt8) (bytes : Bytes) :
    encode (b :: bytes) = digit (b.toNat / 16) :: digit (b.toNat % 16) :: encode bytes := rfl

theorem decode_encode (bytes : Bytes) : decode (encode bytes) = some bytes := by
  induction bytes with
  | nil => rfl
  | cons b bytes ih =>
    have hhigh : b.toNat / 16 < 16 := by
      have := b.toNat_lt
      omega
    have hlow : b.toNat % 16 < 16 := by omega
    have hb : UInt8.ofNat (16 * (b.toNat / 16) + b.toNat % 16) = b := by
      rw [Nat.div_add_mod, UInt8.ofNat_toNat]
    rw [encode_cons]
    unfold decode
    rw [value?_digit hhigh, value?_digit hlow, ih]
    show some (UInt8.ofNat (16 * (b.toNat / 16) + b.toNat % 16) :: bytes) = some (b :: bytes)
    rw [hb]

theorem length_encode (bytes : Bytes) : (encode bytes).length = 2 * bytes.length := by
  induction bytes with
  | nil => rfl
  | cons b bytes ih =>
    rw [encode_cons, List.length_cons, List.length_cons, List.length_cons, ih]
    omega

/-- What is written consists of digits. -/
theorem mem_encode {bytes : Bytes} {c : Char} (h : c ∈ encode bytes) : ∃ n < 16, c = digit n := by
  unfold encode at h
  obtain ⟨b, -, hc⟩ := List.mem_flatMap.mp h
  have hb := b.toNat_lt
  rcases List.mem_cons.mp hc with rfl | hc
  · exact ⟨b.toNat / 16, by omega, rfl⟩
  · exact ⟨b.toNat % 16, by omega, List.mem_singleton.mp hc⟩

/-- The letter case does not matter for reading. -/
theorem decode_map_toLower (cs : List Char) : decode (cs.map Char.toLower) = decode cs := by
  fun_induction decode cs with
  | case1 => rfl
  | case2 c => rfl
  | case3 a b rest ih =>
    rw [List.map_cons, List.map_cons, decode, value?_toLower, value?_toLower, ih]

/-- What decodes is written in digits of either case. -/
theorem map_toLower_of_decode {cs : List Char} {bytes : Bytes} (h : decode cs = some bytes) :
    cs.map Char.toLower = encode bytes := by
  fun_induction decode cs generalizing bytes with
  | case1 => cases h; rfl
  | case2 c => cases h
  | case3 a b rest ih =>
    obtain ⟨high, hhigh, h⟩ := Option.bind_eq_some_iff.mp h
    obtain ⟨low, hlow, h⟩ := Option.bind_eq_some_iff.mp h
    obtain ⟨more, hmore, h⟩ := Option.bind_eq_some_iff.mp h
    cases h
    obtain ⟨hlt, ha⟩ := value?_eq_some_iff.mp hhigh
    obtain ⟨hlt', hb⟩ := value?_eq_some_iff.mp hlow
    have hbyte : (UInt8.ofNat (16 * high + low)).toNat = 16 * high + low :=
      UInt8.toNat_ofNat_of_lt' (by unfold UInt8.size; omega)
    rw [List.map_cons, List.map_cons, ih hmore, encode_cons, ha, hb, hbyte,
      show (16 * high + low) / 16 = high by omega, show (16 * high + low) % 16 = low by omega]

/-- A text decodes to the bytes whose digits it shows, in letters of either case. -/
theorem decode_eq_some_iff {cs : List Char} {bytes : Bytes} :
    decode cs = some bytes ↔ cs.map Char.toLower = encode bytes := by
  constructor
  · exact map_toLower_of_decode
  · intro h
    rw [← decode_map_toLower, h, decode_encode]

end WebhookGuard.Encoding.Hex

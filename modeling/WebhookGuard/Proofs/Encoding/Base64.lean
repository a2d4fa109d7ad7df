import Mathlib.Data.List.DropRight
import WebhookGuard.Encoding.Base64

/-
  Base64 read and written. Reading a group of symbols undoes writing it and succeeds on nothing
  else, because the bits that a short group leaves over have to be zero (`read4_eq_some_iff`,
  `read3_eq_some_iff`, `read2_eq_some_iff`). Hence each of the two readers accepts exactly what the
  writer of its form produces, and of all texts just two decode to some bytes: the padded form and
  the same without its padding (`decode_eq_some_iff`).
-/
namespace WebhookGuard.Encoding.Base64

/-! ## Symbols -/

theorem value?_symbol {n : Nat} (h : n < 64) : value? (symbol n) = some n :=
  (by decide : ∀ n < 64, value? (symbol n) = some n) n h

theorem symbol_ne_pad {n : Nat} (h : n < 64) : symbol n ≠ '=' :=
  (by decide : ∀ n < 64, symbol n ≠ '=') n h

/-- The characters with a value are the symbols. -/
theorem symbol_of_value? {c : Char} {n : Nat} (h : value? c = some n) : n < 64 ∧ symbol n = c := by
  unfold value? at h
  dsimp only at h
  have hc := Char.ofNat_toNat c
  unfold symbol
  split at h
  · obtain rfl := Option.some.inj h
    refine ⟨by omega, ?_⟩
    rw [if_pos (by omega), show 65 + (c.toNat - 65) = c.toNat by omega, hc]
  · split at h
    · obtain rfl := Option.some.inj h
      refine ⟨by omega, ?_⟩
      rw [if_neg (by omega), if_pos (by omega), show 71 + (c.toNat - 71) = c.toNat by omega, hc]
    · split at h
      · obtain rfl := Option.some.inj h
        refine ⟨by omega, ?_⟩
        rw [if_neg (by omega), if_neg (by omega), if_pos (by omega),
          show c.toNat + 4 - 4 = c.toNat by omega, hc]
      · split at h
        · next hplus =>
          obtain rfl := Option.some.inj h
          exact ⟨by decide, hplus.symm⟩
        · split at h
          · next hslash =>
            obtain rfl := Option.some.inj h
            exact ⟨by decide, hslash.symm⟩
          · cases h

theorem toNat_ofNat {n : Nat} (h : n < 256) : (UInt8.ofNat n).toNat = n :=
  UInt8.toNat_ofNat_of_lt' h

theorem ofNat_eq {b : UInt8} {n : Nat} (h : n = b.toNat) : UInt8.ofNat n = b := by
  rw [h, UInt8.ofNat_toNat]

/-! ## Groups -/

theorem read4_group3 (a b c : UInt8) :
    read4 (symbol (a.toNat / 4)) (symbol (a.toNat % 4 * 16 + b.toNat / 16))
      (symbol (b.toNat % 16 * 4 + c.toNat / 64)) (symbol (c.toNat % 64)) = some [a, b, c] := by
  have ha := a.toNat_lt
  have hb := b.toNat_lt
  have hc := c.toNat_lt
  unfold read4
  rw [value?_symbol (by omega), value?_symbol (by omega), value?_symbol (by omega),
    value?_symbol (by omega)]
  show some _ = some _
  rw [ofNat_eq (b := a) (by omega), ofNat_eq (b := b) (by omega), ofNat_eq (b := c) (by omega)]

theorem read3_group2 (a b : UInt8) :
    read3 (symbol (a.toNat / 4)) (symbol (a.toNat % 4 * 16 + b.toNat / 16))
      (symbol (b.toNat % 16 * 4)) = some [a, b] := by
  have ha := a.toNat_lt
  have hb := b.toNat_lt
  unfold read3
  rw [value?_symbol (by omega), value?_symbol (by omega), value?_symbol (by omega)]
  show (if b.toNat % 16 * 4 % 4 = 0 then some _ else none) = some _
  rw [if_pos (by omega), ofNat_eq (b := a) (by omega), ofNat_eq (b := b) (by omega)]

theorem read2_group1 (a : UInt8) :
    read2 (symbol (a.toNat / 4)) (symbol (a.toNat % 4 * 16)) = some [a] := by
  have ha := a.toNat_lt
  unfold read2
  rw [value?_symbol (by omega), value?_symbol (by omega)]
  show (if a.toNat % 4 * 16 % 16 = 0 then some _ else none) = some _
  rw [if_pos (by omega), ofNat_eq (b := a) (by omega)]

/-- Four symbols are read as three bytes exactly when they are what is written for these. -/
theorem read4_eq_some_iff {p q r s : Char} {bytes : Bytes} :
    read4 p q r s = some bytes ↔ ∃ a b c, bytes = [a, b, c] ∧ [p, q, r, s] = group3 a b c := by
  constructor
  · intro h
    obtain ⟨v, hp, hqrs⟩ := Option.bind_eq_some_iff.mp h
    obtain ⟨w, hq, hrs⟩ := Option.bind_eq_some_iff.mp hqrs
    obtain ⟨x, hr, hs⟩ := Option.bind_eq_some_iff.mp hrs
    obtain ⟨y, hs, hbytes⟩ := Option.bind_eq_some_iff.mp hs
    obtain ⟨hv, rfl⟩ := symbol_of_value? hp
    obtain ⟨hw, rfl⟩ := symbol_of_value? hq
    obtain ⟨hx, rfl⟩ := symbol_of_value? hr
    obtain ⟨hy, rfl⟩ := symbol_of_value? hs
    refine ⟨_, _, _, (Option.some.inj hbytes).symm, ?_⟩
    unfold group3
    rw [toNat_ofNat (n := v * 4 + w / 16) (by omega),
      toNat_ofNat (n := w % 16 * 16 + x / 4) (by omega),
      toNat_ofNat (n := x % 4 * 64 + y) (by omega),
      show (v * 4 + w / 16) / 4 = v by omega,
      show (v * 4 + w / 16) % 4 * 16 + (w % 16 * 16 + x / 4) / 16 = w by omega,
      show (w % 16 * 16 + x / 4) % 16 * 4 + (x % 4 * 64 + y) / 64 = x by omega,
      show (x % 4 * 64 + y) % 64 = y by omega]
  · rintro ⟨a, b, c, rfl, h⟩
    unfold group3 at h
    simp only [List.cons.injEq, and_true] at h
    obtain ⟨rfl, rfl, rfl, rfl⟩ := h
    exact read4_group3 a b c

theorem read3_eq_some_iff {p q r : Char} {bytes : Bytes} :
    read3 p q r = some bytes ↔ ∃ a b, bytes = [a, b] ∧ [p, q, r] = group2 a b := by
  constructor
  · intro h
    obtain ⟨v, hp, hqr⟩ := Option.bind_eq_some_iff.mp h
    obtain ⟨w, hq, hr⟩ := Option.bind_eq_some_iff.mp hqr
    obtain ⟨x, hr, hbytes⟩ := Option.bind_eq_some_iff.mp hr
    obtain ⟨hv, rfl⟩ := symbol_of_value? hp
    obtain ⟨hw, rfl⟩ := symbol_of_value? hq
    obtain ⟨hx, rfl⟩ := symbol_of_value? hr
    split at hbytes
    · refine ⟨_, _, (Option.some.inj hbytes).symm, ?_⟩
      unfold group2
      rw [toNat_ofNat (n := v * 4 + w / 16) (by omega),
        toNat_ofNat (n := w % 16 * 16 + x / 4) (by omega),
        show (v * 4 + w / 16) / 4 = v by omega,
        show (v * 4 + w / 16) % 4 * 16 + (w % 16 * 16 + x / 4) / 16 = w by omega,
        show (w % 16 * 16 + x / 4) % 16 * 4 = x by omega]
    · cases hbytes
  · rintro ⟨a, b, rfl, h⟩
    unfold group2 at h
    simp only [List.cons.injEq, and_true] at h
    obtain ⟨rfl, rfl, rfl⟩ := h
    exact read3_group2 a b

theorem read2_eq_some_iff {p q : Char} {bytes : Bytes} :
    read2 p q = some bytes ↔ ∃ a, bytes = [a] ∧ [p, q] = group1 a := by
  constructor
  · intro h
    obtain ⟨v, hp, hq⟩ := Option.bind_eq_some_iff.mp h
    obtain ⟨w, hq, hbytes⟩ := Option.bind_eq_some_iff.mp hq
    obtain ⟨hv, rfl⟩ := symbol_of_value? hp
    obtain ⟨hw, rfl⟩ := symbol_of_value? hq
    split at hbytes
    · refine ⟨_, (Option.some.inj hbytes).symm, ?_⟩
      unfold group1
      rw [toNat_ofNat (n := v * 4 + w / 16) (by omega), show (v * 4 + w / 16) / 4 = v by omega,
        show (v * 4 + w / 16) % 4 * 16 = w by omega]
    · cases hbytes
  · rintro ⟨a, rfl, h⟩
    unfold group1 at h
    simp only [List.cons.injEq, and_true] at h
    obtain ⟨rfl, rfl⟩ := h
    exact read2_group1 a

/-! ## The bare form -/

theorem decodeBare_encodeBare (bytes : Bytes) : decodeBare (encodeBare bytes) = some bytes := by
  fun_induction encodeBare bytes with
  | case1 => rfl
  | case2 a => exact read2_group1 a
  | case3 a b => exact read3_group2 a b
  | case4 a b c rest ih =>
    unfold group3
    simp only [List.cons_append, List.nil_append]
    rw [decodeBare, read4_group3, ih]
    rfl

theorem encodeBare_of_decodeBare {cs : List Char} {bytes : Bytes}
    (h : decodeBare cs = some bytes) : cs = encodeBare bytes := by
  fun_induction decodeBare cs generalizing bytes with
  | case1 => cases h; rfl
  | case2 c => cases h
  | case3 p q =>
    obtain ⟨a, rfl, hgroup⟩ := read2_eq_some_iff.mp h
    exact hgroup
  | case4 p q r =>
    obtain ⟨a, b, rfl, hgroup⟩ := read3_eq_some_iff.mp h
    exact hgroup
  | case5 p q r s rest ih =>
    obtain ⟨first, hfirst, h⟩ := Option.bind_eq_some_iff.mp h
    obtain ⟨more, hmore, h⟩ := Option.bind_eq_some_iff.mp h
    cases h
    obtain ⟨a, b, c, rfl, hgroup⟩ := read4_eq_some_iff.mp hfirst
    show [p, q, r, s] ++ rest = group3 a b c ++ encodeBare more
    rw [hgroup, ih hmore]

/-- The bare form consists of symbols. -/
theorem mem_encodeBare {bytes : Bytes} {p : Char} (h : p ∈ encodeBare bytes) :
    ∃ n < 64, p = symbol n := by
  fun_induction encodeBare bytes with
  | case1 => cases h
  | case2 a =>
    have ha := a.toNat_lt
    simp only [group1, List.mem_cons, List.not_mem_nil, or_false] at h
    rcases h with rfl | rfl
    · exact ⟨_, by omega, rfl⟩
    · exact ⟨_, by omega, rfl⟩
  | case3 a b =>
    have ha := a.toNat_lt
    have hb := b.toNat_lt
    simp only [group2, List.mem_cons, List.not_mem_nil, or_false] at h
    rcases h with rfl | rfl | rfl
    · exact ⟨_, by omega, rfl⟩
    · exact ⟨_, by omega, rfl⟩
    · exact ⟨_, by omega, rfl⟩
  | case4 a b c rest ih =>
    have ha := a.toNat_lt
    have hb := b.toNat_lt
    have hc := c.toNat_lt
    simp only [group3, List.cons_append, List.nil_append, List.mem_cons] at h
    rcases h with rfl | rfl | rfl | rfl | h
    · exact ⟨_, by omega, rfl⟩
    · exact ⟨_, by omega, rfl⟩
    · exact ⟨_, by omega, rfl⟩
    · exact ⟨_, by omega, rfl⟩
    · exact ih h

theorem pad_not_mem_encodeBare (bytes : Bytes) : '=' ∉ encodeBare bytes := by
  intro h
  obtain ⟨n, hn, heq⟩ := mem_encodeBare h
  exact symbol_ne_pad hn heq.symm

/-! ## The padded form -/

/-- A text without the padding at its end. -/
def unpadded (cs : List Char) : List Char := cs.rdropWhile (· == '=')

/-- The padded form is the bare one with some padding. -/
theorem encode_eq_append (bytes : Bytes) :
    ∃ n, encode bytes = encodeBare bytes ++ List.replicate n '=' := by
  fun_induction encode bytes with
  | case1 => exact ⟨0, rfl⟩
  | case2 a => exact ⟨2, rfl⟩
  | case3 a b => exact ⟨1, rfl⟩
  | case4 a b c rest ih =>
    obtain ⟨n, hn⟩ := ih
    exact ⟨n, by rw [hn, encodeBare, List.append_assoc]⟩

theorem unpadded_append_replicate {cs : List Char} (h : '=' ∉ cs) (n : Nat) :
    unpadded (cs ++ List.replicate n '=') = cs := by
  induction n with
  | zero =>
    unfold unpadded
    rw [List.replicate_zero, List.append_nil, List.rdropWhile_eq_self_iff]
    intro hne hlast
    have hmem := List.getLast_mem hne
    rw [beq_iff_eq.mp hlast] at hmem
    exact h hmem
  | succ n ih =>
    unfold unpadded at *
    rw [List.replicate_succ', ← List.append_assoc, List.rdropWhile_concat_pos _ _ _ rfl, ih]

theorem unpadded_encode (bytes : Bytes) : unpadded (encode bytes) = encodeBare bytes := by
  obtain ⟨n, hn⟩ := encode_eq_append bytes
  rw [hn, unpadded_append_replicate (pad_not_mem_encodeBare bytes)]

theorem decodePadded_cons {p q r s : Char} {rest : List Char} (h : rest ≠ []) :
    decodePadded (p :: q :: r :: s :: rest) =
      (read4 p q r s).bind fun bytes => (decodePadded rest).bind fun more =>
        some (bytes ++ more) := by
  cases rest with
  | nil => exact absurd rfl h
  | cons t rest => rfl

theorem decodePadded_encode (bytes : Bytes) : decodePadded (encode bytes) = some bytes := by
  fun_induction encode bytes with
  | case1 => rfl
  | case2 a => exact read2_group1 a
  | case3 a b =>
    have hb := b.toNat_lt
    have hne : symbol (b.toNat % 16 * 4) ≠ '=' := symbol_ne_pad (by omega)
    show (if symbol (b.toNat % 16 * 4) = '=' then read2 _ _ else read3 _ _ _) = _
    rw [if_neg hne]
    exact read3_group2 a b
  | case4 a b c rest ih =>
    have hc := c.toNat_lt
    have hgroup := read4_group3 a b c
    unfold group3
    simp only [List.cons_append, List.nil_append]
    by_cases hrest : encode rest = []
    · -- The group is the last one and must not be taken for a padded one.
      have hne : symbol (c.toNat % 64) ≠ '=' := symbol_ne_pad (by omega)
      rw [hrest] at ih ⊢
      rw [← Option.some.inj ih]
      unfold decodePadded
      rw [if_neg hne, hgroup]
    · rw [decodePadded_cons hrest, hgroup, ih]
      rfl

theorem encode_of_decodePadded {cs : List Char} {bytes : Bytes}
    (h : decodePadded cs = some bytes) : cs = encode bytes := by
  fun_induction decodePadded cs generalizing bytes with
  | case1 => cases h; rfl
  | case2 p q =>
    obtain ⟨a, rfl, hgroup⟩ := read2_eq_some_iff.mp h
    exact congrArg (· ++ ['=', '=']) hgroup
  | case3 p q r =>
    obtain ⟨a, b, rfl, hgroup⟩ := read3_eq_some_iff.mp h
    exact congrArg (· ++ ['=']) hgroup
  | case4 p q r s =>
    obtain ⟨a, b, c, rfl, hgroup⟩ := read4_eq_some_iff.mp h
    exact hgroup
  | case5 p q r s rest hrest ih =>
    obtain ⟨first, hfirst, htail⟩ := Option.bind_eq_some_iff.mp h
    obtain ⟨more, hmore, hbytes⟩ := Option.bind_eq_some_iff.mp htail
    obtain ⟨a, b, c, rfl, hgroup⟩ := read4_eq_some_iff.mp hfirst
    cases hbytes
    show [p, q, r, s] ++ rest = group3 a b c ++ encode more
    rw [hgroup, ih hmore]
  | case6 => cases h

/-! ## Either form -/

/-- A text that both readers accept means the same to both: it has no padding. -/
theorem decodeBare_of_decodePadded {cs : List Char} {padded bare : Bytes}
    (hpadded : decodePadded cs = some padded) (hbare : decodeBare cs = some bare) :
    padded = bare := by
  have hcs := encode_of_decodePadded hpadded
  have hclean : unpadded cs = cs := by
    have h := unpadded_append_replicate (pad_not_mem_encodeBare bare) 0
    rwa [List.replicate_zero, List.append_nil, ← encodeBare_of_decodeBare hbare] at h
  rw [hcs, unpadded_encode] at hclean
  rw [hcs, ← hclean, decodeBare_encodeBare] at hbare
  exact Option.some.inj hbare

/-- A text decodes to the bytes whose padded form it is, with or without the padding. -/
theorem decode_eq_some_iff {cs : List Char} {bytes : Bytes} :
    decode cs = some bytes ↔ cs = encode bytes ∨ cs = unpadded (encode bytes) := by
  unfold decode
  rw [unpadded_encode, Option.or_eq_some_iff]
  constructor
  · rintro (h | ⟨-, h⟩)
    · exact Or.inl (encode_of_decodePadded h)
    · exact Or.inr (encodeBare_of_decodeBare h)
  · rintro (rfl | rfl)
    · exact Or.inl (decodePadded_encode bytes)
    · have hbare := decodeBare_encodeBare bytes
      cases hpadded : decodePadded (encodeBare bytes) with
      | none => exact Or.inr ⟨rfl, hbare⟩
      | some padded => exact Or.inl (congrArg some (decodeBare_of_decodePadded hpadded hbare))

theorem length_encodeBare (bytes : Bytes) :
    (encodeBare bytes).length = (4 * bytes.length + 2) / 3 := by
  fun_induction encodeBare bytes with
  | case1 => rfl
  | case2 a => simp [group1]
  | case3 a b => simp [group2]
  | case4 a b c rest ih =>
    rw [List.length_append, ih]
    simp only [group3, List.length_cons, List.length_nil]
    omega

theorem length_encode (bytes : Bytes) : (encode bytes).length = (bytes.length + 2) / 3 * 4 := by
  fun_induction encode bytes with
  | case1 => rfl
  | case2 a => simp [group1]
  | case3 a b => simp [group2]
  | case4 a b c rest ih =>
    rw [List.length_append, ih]
    simp only [group3, List.length_cons, List.length_nil]
    omega

end WebhookGuard.Encoding.Base64

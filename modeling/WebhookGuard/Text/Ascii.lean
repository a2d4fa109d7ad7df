/-
  Letter case. Header names, and the spellings of the signature encodings, are compared up to
  the case of the ASCII letters; every other character stands for itself.
-/
namespace WebhookGuard.Text

/-- A text with its ASCII capital letters made small. -/
def lower (s : String) : String :=
  String.ofList (s.toList.map Char.toLower)

/-- Two texts that differ at most in the case of ASCII letters. -/
def sameUpToCase (s t : String) : Bool :=
  lower s == lower t

theorem sameUpToCase_iff {s t : String} : sameUpToCase s t = true ↔ lower s = lower t := by
  simp [sameUpToCase]

theorem sameUpToCase_comm (s t : String) : sameUpToCase s t = sameUpToCase t s := by
  rw [Bool.eq_iff_iff, sameUpToCase_iff, sameUpToCase_iff, eq_comm]

/-- Texts that differ at most in case have the same relation to every text. -/
theorem sameUpToCase_congr {s t : String} (h : sameUpToCase s t = true) (u : String) :
    sameUpToCase s u = sameUpToCase t u := by
  unfold sameUpToCase
  rw [sameUpToCase_iff.mp h]

/-- What holds of every code point of ASCII holds of every character of ASCII. -/
theorem of_ascii {p : Char → Prop} (h : ∀ k < 128, p (Char.ofNat k)) {c : Char}
    (hc : c.toNat < 128) : p c := by
  have hp := h c.toNat hc
  rwa [Char.ofNat_toNat] at hp

end WebhookGuard.Text

import WebhookGuard.Text.Ascii
import WebhookGuard.Text.Blank

/-
  Headers of a delivery. Names are the same up to the case of ASCII letters. Of several values for
  one name the first is kept. Values are handed on as they are, neither trimmed nor recased.
-/
namespace WebhookGuard

open WebhookGuard.Text

/-- Header values by name. The names are kept with small letters, each once. -/
structure Headers where
  entries : List (String × String)
deriving DecidableEq, Repr

namespace Headers

/-- No headers. -/
def empty : Headers := ⟨[]⟩

/-- The value for a name. -/
def get? (h : Headers) (name : String) : Option String :=
  h.entries.lookup (lower name)

/-- Adds a value for a name that has none yet. -/
def insert (h : Headers) (name value : String) : Headers :=
  match h.get? name with
  | some _ => h
  | none => ⟨h.entries ++ [(lower name, value)]⟩

/-- The headers of a list of names and values, inserted in order. -/
def ofList (pairs : List (String × String)) : Headers :=
  pairs.foldl (fun h pair => h.insert pair.1 pair.2) empty

/-- The number of names. -/
def size (h : Headers) : Nat := h.entries.length

/-- The values that are present under the names that are not blank, in the order of the names. -/
def present (h : Headers) (names : List String) : List String :=
  (names.filter fun name => !isBlank name).filterMap h.get?

/-- The first value that is present and not blank. -/
def firstNonBlank? (h : Headers) (names : List String) : Option String :=
  (h.present names).find? fun value => !isBlank value

/-- The first value that is present, blank or not. -/
def firstPresent? (h : Headers) (names : List String) : Option String :=
  (h.present names).head?

@[simp] theorem get?_empty (name : String) : empty.get? name = none := rfl

/-- Looking up an inserted name: what was there stays, and only that name can have changed. -/
theorem get?_insert (h : Headers) (name value other : String) :
    (h.insert name value).get? other =
      (h.get? other).or (if lower other = lower name then some value else none) := by
  cases hg : h.get? name with
  | some v =>
    have hi : h.insert name value = h := by simp [insert, hg]
    rw [hi]
    by_cases hn : lower other = lower name
    · have ho : h.get? other = some v := by simpa [get?, hn] using hg
      simp [ho]
    · simp [hn]
  | none =>
    have hi : h.insert name value = ⟨h.entries ++ [(lower name, value)]⟩ := by simp [insert, hg]
    rw [hi]
    simp only [get?, List.lookup_append, List.lookup_cons, List.lookup_nil]
    by_cases hn : lower other = lower name
    · simp [hn]
    · have hb : (lower other == lower name) = false := by simpa using hn
      simp [hb, hn]

end Headers

end WebhookGuard

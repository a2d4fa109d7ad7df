/-
  Blank text. Headers, settings and nonces count as absent when they hold nothing but white
  space, and values are trimmed of it, both in the sense of the Unicode property White_Space.
  The shared secret is a string of bytes and has a narrower notion of its own: ASCII white
  space, which leaves out the vertical tab.
-/
namespace WebhookGuard.Text

/-- White space in the sense of the Unicode property White_Space. -/
def isBlankChar (c : Char) : Bool :=
  let n := c.toNat
  (9 ≤ n && n ≤ 13) || n == 0x20 || n == 0x85 || n == 0xA0 || n == 0x1680 ||
    (0x2000 ≤ n && n ≤ 0x200A) || n == 0x2028 || n == 0x2029 || n == 0x202F ||
    n == 0x205F || n == 0x3000

/-- A text is blank when every character of it is white space; the empty text is blank. -/
def isBlank (s : String) : Bool :=
  s.toList.all isBlankChar

/-- The characters of a text after the white space it opens with. -/
def skipBlanks (cs : List Char) : List Char :=
  cs.dropWhile isBlankChar

/-- A text without the white space at its two ends. -/
def trim (s : String) : String :=
  String.ofList (skipBlanks (skipBlanks s.toList).reverse).reverse

/-- White space among the ASCII bytes: space, tab, line feed, form feed and carriage return. -/
def isBlankByte (b : UInt8) : Bool :=
  b == 0x20 || b == 0x09 || b == 0x0A || b == 0x0C || b == 0x0D

/-- Every white space of ASCII is white space of Unicode. -/
theorem isBlankChar_of_isWhitespace {c : Char} (h : c.isWhitespace = true) :
    isBlankChar c = true := by
  simp only [Char.isWhitespace, Bool.or_eq_true, decide_eq_true_eq] at h
  rcases h with ((rfl | rfl) | rfl) | rfl <;> decide

theorem skipBlanks_of_all {cs : List Char} (h : cs.all isBlankChar = true) :
    skipBlanks cs = [] := by
  induction cs with
  | nil => rfl
  | cons c cs ih =>
    simp only [List.all_cons, Bool.and_eq_true] at h
    simp only [skipBlanks, List.dropWhile_cons, h.1, if_true]
    exact ih h.2

/-- Nothing is left of a blank text once it is trimmed. -/
theorem trim_eq_empty_of_isBlank {s : String} (h : isBlank s = true) : trim s = "" := by
  simp only [trim, skipBlanks_of_all h]
  rfl

end WebhookGuard.Text

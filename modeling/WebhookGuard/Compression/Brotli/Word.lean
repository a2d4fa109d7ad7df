import WebhookGuard.Compression.Brotli.Dictionary

/-
  Words. What is taken from the dictionary is a word of it that may be changed and stand between
  two texts. A number names both the word and the way it is taken.
-/
namespace WebhookGuard.Compression.Brotli

/-- What is done to a word. -/
inductive Change where
  | keep
  | dropFirst (count : Nat)
  | dropLast (count : Nat)
  /-- The first character is turned into a capital. -/
  | turnFirst
  /-- All characters are turned into capitals. -/
  | turnAll
deriving DecidableEq, Repr

/-- A way of taking a word: changed, between two texts. -/
structure Transform where
  before : String
  change : Change
  after : String
deriving DecidableEq, Repr

/-- What turns the case of the character that a byte begins, byte by byte. Among the characters of
one byte it turns the small letters of ASCII; of those of two or three bytes it changes the last
byte, whatever the character is. -/
def turnMasks (a : UInt8) : List UInt8 :=
  if a < 0xC0 then [if 0x61 ≤ a && a ≤ 0x7A then 0x20 else 0]
  else if a < 0xE0 then [0, 0x20]
  else [0, 0, 0x05]

/-- What turns the case of every character, when so many bytes are left of one that has begun. -/
def allMasks : Nat → Bytes → List UInt8
  | _, [] => []
  | 0, a :: rest => turnMasks a ++ allMasks ((turnMasks a).length - 1) rest
  | left + 1, _ :: rest => allMasks left rest

/-- Changes the bytes for which there are masks. -/
def mask : List UInt8 → Bytes → Bytes
  | m :: masks, a :: rest => (a ^^^ m) :: mask masks rest
  | _, rest => rest

/-- Changes a word. -/
def Change.apply (change : Change) (word : Bytes) : Bytes :=
  match change with
  | keep => word
  | dropFirst count => word.drop count
  | dropLast count => word.take (word.length - count)
  | turnFirst => mask ((word.take 1).flatMap turnMasks) word
  | turnAll => mask (allMasks 0 word) word

/-- Takes a word. -/
def Transform.apply (t : Transform) (word : Bytes) : Bytes :=
  utf8 t.before ++ t.change.apply word ++ utf8 t.after

/-- The ways of taking a word, in the order of their numbers. -/
def transforms : List Transform :=
  [ ⟨"", .keep, ""⟩, ⟨"", .keep, " "⟩, ⟨" ", .keep, " "⟩, ⟨"", .dropFirst 1, ""⟩,
    ⟨"", .turnFirst, " "⟩, ⟨"", .keep, " the "⟩, ⟨" ", .keep, ""⟩, ⟨"s ", .keep, " "⟩,
    ⟨"", .keep, " of "⟩, ⟨"", .turnFirst, ""⟩, ⟨"", .keep, " and "⟩, ⟨"", .dropFirst 2, ""⟩,
    ⟨"", .dropLast 1, ""⟩, ⟨", ", .keep, " "⟩, ⟨"", .keep, ", "⟩, ⟨" ", .turnFirst, " "⟩,
    ⟨"", .keep, " in "⟩, ⟨"", .keep, " to "⟩, ⟨"e ", .keep, " "⟩, ⟨"", .keep, "\""⟩,
    ⟨"", .keep, "."⟩, ⟨"", .keep, "\">"⟩, ⟨"", .keep, "\n"⟩, ⟨"", .dropLast 3, ""⟩,
    ⟨"", .keep, "]"⟩, ⟨"", .keep, " for "⟩, ⟨"", .dropFirst 3, ""⟩, ⟨"", .dropLast 2, ""⟩,
    ⟨"", .keep, " a "⟩, ⟨"", .keep, " that "⟩, ⟨" ", .turnFirst, ""⟩, ⟨"", .keep, ". "⟩,
    ⟨".", .keep, ""⟩, ⟨" ", .keep, ", "⟩, ⟨"", .dropFirst 4, ""⟩, ⟨"", .keep, " with "⟩,
    ⟨"", .keep, "'"⟩, ⟨"", .keep, " from "⟩, ⟨"", .keep, " by "⟩, ⟨"", .dropFirst 5, ""⟩,
    ⟨"", .dropFirst 6, ""⟩, ⟨" the ", .keep, ""⟩, ⟨"", .dropLast 4, ""⟩, ⟨"", .keep, ". The "⟩,
    ⟨"", .turnAll, ""⟩, ⟨"", .keep, " on "⟩, ⟨"", .keep, " as "⟩, ⟨"", .keep, " is "⟩,
    ⟨"", .dropLast 7, ""⟩, ⟨"", .dropLast 1, "ing "⟩, ⟨"", .keep, "\n\t"⟩, ⟨"", .keep, ":"⟩,
    ⟨" ", .keep, ". "⟩, ⟨"", .keep, "ed "⟩, ⟨"", .dropFirst 9, ""⟩, ⟨"", .dropFirst 7, ""⟩,
    ⟨"", .dropLast 6, ""⟩, ⟨"", .keep, "("⟩, ⟨"", .turnFirst, ", "⟩, ⟨"", .dropLast 8, ""⟩,
    ⟨"", .keep, " at "⟩, ⟨"", .keep, "ly "⟩, ⟨" the ", .keep, " of "⟩, ⟨"", .dropLast 5, ""⟩,
    ⟨"", .dropLast 9, ""⟩, ⟨" ", .turnFirst, ", "⟩, ⟨"", .turnFirst, "\""⟩, ⟨".", .keep, "("⟩,
    ⟨"", .turnAll, " "⟩, ⟨"", .turnFirst, "\">"⟩, ⟨"", .keep, "=\""⟩, ⟨" ", .keep, "."⟩,
    ⟨".com/", .keep, ""⟩, ⟨" the ", .keep, " of the "⟩, ⟨"", .turnFirst, "'"⟩,
    ⟨"", .keep, ". This "⟩, ⟨"", .keep, ","⟩, ⟨".", .keep, " "⟩, ⟨"", .turnFirst, "("⟩,
    ⟨"", .turnFirst, "."⟩, ⟨"", .keep, " not "⟩, ⟨" ", .keep, "=\""⟩, ⟨"", .keep, "er "⟩,
    ⟨" ", .turnAll, " "⟩, ⟨"", .keep, "al "⟩, ⟨" ", .turnAll, ""⟩, ⟨"", .keep, "='"⟩,
    ⟨"", .turnAll, "\""⟩, ⟨"", .turnFirst, ". "⟩, ⟨" ", .keep, "("⟩, ⟨"", .keep, "ful "⟩,
    ⟨" ", .turnFirst, ". "⟩, ⟨"", .keep, "ive "⟩, ⟨"", .keep, "less "⟩, ⟨"", .turnAll, "'"⟩,
    ⟨"", .keep, "est "⟩, ⟨" ", .turnFirst, "."⟩, ⟨"", .turnAll, "\">"⟩, ⟨" ", .keep, "='"⟩,
    ⟨"", .turnFirst, ","⟩, ⟨"", .keep, "ize "⟩, ⟨"", .turnAll, "."⟩, ⟨"\u00a0", .keep, ""⟩,
    ⟨" ", .keep, ","⟩, ⟨"", .turnFirst, "=\""⟩, ⟨"", .turnAll, "=\""⟩, ⟨"", .keep, "ous "⟩,
    ⟨"", .turnAll, ", "⟩, ⟨"", .turnFirst, "='"⟩, ⟨" ", .turnFirst, ","⟩, ⟨" ", .turnAll, "=\""⟩,
    ⟨" ", .turnAll, ", "⟩, ⟨"", .turnAll, ","⟩, ⟨"", .turnAll, "("⟩, ⟨"", .turnAll, ". "⟩,
    ⟨" ", .turnAll, "."⟩, ⟨"", .turnAll, "='"⟩, ⟨" ", .turnAll, ". "⟩, ⟨" ", .turnFirst, "=\""⟩,
    ⟨" ", .turnAll, "='"⟩, ⟨" ", .turnFirst, "='"⟩ ]

/-- The word of some length with some number. -/
def wordAt (length index : Nat) : Bytes :=
  let words := Dictionary.words.get.getD (length - Dictionary.minLength) .empty
  (List.range length).map fun k => byteAt words (index * length + k)

/-- What a number names among the words of some length. There are no such words, or the number is
too great, when it names nothing. -/
def word? (length number : Nat) : Option Bytes :=
  if length < Dictionary.minLength then none
  else do
    let width ← Dictionary.indexWidths[length - Dictionary.minLength]?
    let transform ← transforms[number >>> width]?
    return transform.apply (wordAt length (number % 1 <<< width))

theorem length_mask (masks : List UInt8) (word : Bytes) :
    (mask masks word).length = word.length := by
  induction word generalizing masks with
  | nil => cases masks <;> rfl
  | cons a rest ih =>
    cases masks with
    | nil => rfl
    | cons m masks => rw [mask, List.length_cons, List.length_cons, ih]

/-- A changed word is no longer than the word. -/
theorem length_apply_le (change : Change) (word : Bytes) :
    (change.apply word).length ≤ word.length := by
  cases change with
  | keep => exact Nat.le_refl _
  | dropFirst count => exact List.length_drop ▸ Nat.sub_le _ _
  | dropLast count => exact List.length_take_le' _ _
  | turnFirst => exact Nat.le_of_eq (length_mask _ _)
  | turnAll => exact Nat.le_of_eq (length_mask _ _)

example : transforms.length = 121 := by decide

example : Change.turnAll.apply (utf8 "été no") = utf8 "ÉTÉ NO" := by decide

end WebhookGuard.Compression.Brotli

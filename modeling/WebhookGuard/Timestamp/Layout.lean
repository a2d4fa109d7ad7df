import WebhookGuard.Text.Blank
import WebhookGuard.Time.Calendar
import WebhookGuard.Timestamp.Numeric

/-
  Layouts of calendar timestamps. A layout lists what a text has to hold from its first character
  to its last; scanning it collects the fields of a date, a time of day and an offset from UTC.
  Two dialects share the machinery. In the fixed one every number has its full width. In the loose
  one a number may be shorter and blanks may stand before it, and a year with a sign may have any
  number of digits.
-/
namespace WebhookGuard.Timestamp

open WebhookGuard.Text WebhookGuard.Time

/-- The numeric fields besides the year. -/
inductive Part where
  | month
  | day
  | hour
  | minute
  | second
deriving DecidableEq, Repr

/-- What a layout expects next. -/
inductive Item where
  /-- A year of exactly four digits. -/
  | fixedYear
  /-- Exactly two digits. -/
  | fixed (part : Part)
  /-- Blanks, then a year of up to four digits, or a sign and any number of digits. -/
  | year
  /-- Blanks, then one or two digits. -/
  | number (part : Part)
  /-- One of these characters. -/
  | mark (choices : List Char)
  /-- Any number of blanks, also none. -/
  | blanks
  /-- Nothing, or a point and one or more digits, of which the first nine count. -/
  | fraction
  /-- The letter Z, or a sign, two digits of hours, a colon and two digits of minutes. -/
  | zone
  /-- Blanks, a sign, hours and minutes of two digits, colons and blanks between them. -/
  | offset
deriving DecidableEq, Repr

/-- What a calendar timestamp says, with midnight UTC where it says nothing. -/
structure Fields where
  year : Int := 0
  month : Nat := 1
  day : Nat := 1
  hour : Nat := 0
  minute : Nat := 0
  /-- Sixty is the leap second. -/
  second : Nat := 0
  nanos : Nat := 0
  /-- Seconds that the local time is ahead of UTC. -/
  offset : Int := 0
deriving DecidableEq, Repr

namespace Fields

/-- The fields with one more of them known. -/
def set (f : Fields) (part : Part) (n : Nat) : Fields :=
  match part with
  | .month => { f with month := n }
  | .day => { f with day := n }
  | .hour => { f with hour := n }
  | .minute => { f with minute := n }
  | .second => { f with second := n }

/-- The date of the local time. -/
def date (f : Fields) : Date := ⟨f.year, f.month, f.day⟩

/-- The first year with dates. -/
def firstYear : Int := -262143

/-- The last year with dates. -/
def lastYear : Int := 262142

/-- The fields name a date and a time of day that exist; the sixtieth second is a leap second. -/
def Valid (f : Fields) : Prop :=
  f.date.Valid ∧ firstYear ≤ f.year ∧ f.year ≤ lastYear ∧
    f.hour < 24 ∧ f.minute < 60 ∧ f.second ≤ 60

instance (f : Fields) : Decidable f.Valid := inferInstanceAs (Decidable (_ ∧ _))

/-- The second of the day in local time, with a leap second in the second before it. -/
def secOfDay (f : Fields) : Nat := f.hour * 3600 + f.minute * 60 + min f.second 59

/-- The instant that the fields name, if they name one that the calendar holds. -/
def instant? (f : Fields) : Option Instant :=
  if f.Valid then
    let leap := if f.second = 60 then Instant.nanosPerSec else 0
    Instant.inRange?
      ⟨f.date.dayNumber * Instant.secsPerDay + f.secOfDay - f.offset, f.nanos + leap⟩
  else none

end Fields

/-- The digits at the start of a text, at most `max` of them, and what follows. -/
def takeDigits : Nat → List Char → List Char × List Char
  | 0, cs => ([], cs)
  | _ + 1, [] => ([], [])
  | max + 1, c :: cs =>
    if c.isDigit then
      let (ds, rest) := takeDigits max cs
      (c :: ds, rest)
    else ([], c :: cs)

/-- A number of one to `max` digits, and what follows. -/
def shortNumber? (max : Nat) (cs : List Char) : Option (Nat × List Char) :=
  let (ds, rest) := takeDigits max cs
  if ds.isEmpty then none else some (digitsValue ds, rest)

/-- A number of exactly `width` digits, and what follows. -/
def fixedNumber? (width : Nat) (cs : List Char) : Option (Nat × List Char) :=
  let (ds, rest) := takeDigits width cs
  if ds.length = width then some (digitsValue ds, rest) else none

/-- A year: a sign makes room for any number of digits. -/
def year? : List Char → Option (Int × List Char)
  | '-' :: cs => (shortNumber? cs.length cs).map fun (n, rest) => (-n, rest)
  | '+' :: cs => (shortNumber? cs.length cs).map fun (n, rest) => (n, rest)
  | cs => (shortNumber? 4 cs).map fun (n, rest) => (n, rest)

/-- The nanoseconds that the digits after a point write; those past the ninth are dropped. -/
def fractionNanos (digits : List Char) : Nat :=
  let kept := digits.take 9
  digitsValue kept * Nat.pow 10 (9 - kept.length)

/-- An optional point with digits, and what follows. -/
def fraction? : List Char → Option (Nat × List Char)
  | '.' :: cs =>
    let (ds, rest) := takeDigits cs.length cs
    if ds.isEmpty then none else some (fractionNanos ds, rest)
  | cs => some (0, cs)

/-- Whether a sign of an offset points west; the minus may be written as such or as a hyphen. -/
def westward? (c : Char) : Option Bool :=
  if c = '+' then some false
  else if c = '-' ∨ c = '\u2212' then some true
  else none

/-- A colon has to stand here. -/
def oneColon? : List Char → Option (List Char)
  | ':' :: cs => some cs
  | _ => none

/-- Colons and blanks may stand here, in any order and number. -/
def colonsAndBlanks? (cs : List Char) : Option (List Char) :=
  some (cs.dropWhile fun c => c == ':' || isBlankChar c)

/-- A sign, hours and minutes, with what `between` allows between them, in seconds ahead of UTC.
Less than a day, and less than an hour of minutes. -/
def signedOffset? (between : List Char → Option (List Char)) :
    List Char → Option (Int × List Char)
  | [] => none
  | sign :: cs => do
    let west ← westward? sign
    let (hours, cs) ← fixedNumber? 2 cs
    let cs ← between cs
    let (minutes, cs) ← fixedNumber? 2 cs
    if hours < 24 ∧ minutes < 60 then
      let seconds : Int := hours * 3600 + minutes * 60
      return (if west then -seconds else seconds, cs)
    else none

/-- The letter Z or an offset with a colon. -/
def zone? : List Char → Option (Int × List Char)
  | 'Z' :: cs => some (0, cs)
  | 'z' :: cs => some (0, cs)
  | cs => signedOffset? oneColon? cs

/-- Scans one item: the fields it adds and what follows it. -/
def Item.scan (item : Item) (f : Fields) (cs : List Char) : Option (Fields × List Char) :=
  match item with
  | .fixedYear => (fixedNumber? 4 cs).map fun (n, rest) => ({ f with year := n }, rest)
  | .fixed part => (fixedNumber? 2 cs).map fun (n, rest) => (f.set part n, rest)
  | .year => (year? (skipBlanks cs)).map fun (n, rest) => ({ f with year := n }, rest)
  | .number part => (shortNumber? 2 (skipBlanks cs)).map fun (n, rest) => (f.set part n, rest)
  | .mark choices =>
    match cs with
    | c :: rest => if choices.contains c then some (f, rest) else none
    | [] => none
  | .blanks => some (f, skipBlanks cs)
  | .fraction => (fraction? cs).map fun (n, rest) => ({ f with nanos := n }, rest)
  | .zone => (zone? cs).map fun (n, rest) => ({ f with offset := n }, rest)
  | .offset =>
    (signedOffset? colonsAndBlanks? (skipBlanks cs)).map fun (n, rest) =>
      ({ f with offset := n }, rest)

/-- A layout: what a text has to hold, in order. -/
abbrev Layout := List Item

namespace Layout

/-- Scans a text from its first character to its last. -/
def scan : Layout → Fields → List Char → Option Fields
  | [], f, [] => some f
  | [], _, _ :: _ => none
  | item :: items, f, cs =>
    match item.scan f cs with
    | none => none
    | some (g, rest) => scan items g rest

/-- The instant that a text in this layout names. -/
def instant? (layout : Layout) (cs : List Char) : Option Instant :=
  (layout.scan {} cs).bind Fields.instant?

end Layout

end WebhookGuard.Timestamp

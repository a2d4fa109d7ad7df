import WebhookGuard.Timestamp.Layout

/-
  Calendar timestamps. A timestamp that is no number is a date, mostly with a time of day and an
  offset from UTC. The layouts are tried in turn and the first that fits the whole text decides:
  first the internet profile with its full widths, then loose layouts with an offset, loose
  layouts without one, which are taken as UTC, and the date alone, which is its midnight.
-/
namespace WebhookGuard.Timestamp

/-- The internet profile: full widths, a fraction of any length, and a zone. -/
def internetLayout : Layout :=
  [ .fixedYear, .mark ['-'], .fixed .month, .mark ['-'], .fixed .day, .mark ['T', 't', ' '],
    .fixed .hour, .mark [':'], .fixed .minute, .mark [':'], .fixed .second, .fraction, .zone ]

/-- A loose date. -/
def looseDate : Layout :=
  [.year, .mark ['-'], .number .month, .mark ['-'], .number .day]

/-- A loose time of day in hours and minutes. -/
def looseMinutes : Layout :=
  [.number .hour, .mark [':'], .number .minute]

/-- A loose time of day with seconds and an optional fraction. -/
def looseSeconds : Layout :=
  looseMinutes ++ [.mark [':'], .number .second, .fraction]

/-- All layouts, in the order in which they are tried. -/
def layouts : List Layout :=
  [ internetLayout,
    looseDate ++ [.mark ['T']] ++ looseSeconds ++ [.offset],
    looseDate ++ [.blanks] ++ looseSeconds ++ [.offset],
    looseDate ++ [.mark ['T']] ++ looseSeconds,
    looseDate ++ [.blanks] ++ looseSeconds,
    looseDate ++ [.mark ['T']] ++ looseMinutes,
    looseDate ]

/-- The instant that a calendar timestamp names. -/
def calendar? (cs : List Char) : Option Instant :=
  layouts.findSome? fun layout => layout.instant? cs

end WebhookGuard.Timestamp

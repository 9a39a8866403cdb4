import Sequencer.Calendar.Moment
import Sequencer.Text.Integer

/-!
# Texts of a moment

`2026-02-17T09:30:15.123+00:00` is the text of ISO 8601: a year of four digits, two digits for all
else, and the offset if the moment has one. The fraction of a second is written in one of two ways:
always as milliseconds, or as microseconds where there are any. Messages tell durations, offsets
and moments in words and numbers.
-/

namespace Sequencer

open Text

/-- `2026-02-17`. -/
def Date.iso (d : Date) : List Char :=
  paddedNatural 4 d.year ++ '-' :: paddedNatural 2 d.month ++ '-' :: paddedNatural 2 d.day

/-- `09:30:15`, without a fraction. -/
def TimeOfDay.isoSeconds (t : TimeOfDay) : List Char :=
  paddedNatural 2 t.hour ++ ':' :: paddedNatural 2 t.minute ++ ':' :: paddedNatural 2 t.second

/-- `+00:00`, with hours and minutes. -/
def isoOffset (minutes : Int) : List Char :=
  (if minutes < 0 then '-' else '+') ::
    paddedNatural 2 (minutes.natAbs / 60) ++ ':' :: paddedNatural 2 (minutes.natAbs % 60)

/-- The offset's text, empty for a moment without one. -/
def Moment.isoOffset (m : Moment) : List Char := m.offset.elim [] Sequencer.isoOffset

/-- The moment with milliseconds. -/
def Moment.isoMilliseconds (m : Moment) : String :=
  String.ofList (m.date.iso ++ 'T' :: m.time.isoSeconds
    ++ '.' :: paddedNatural 3 (m.time.microsecond / 1000) ++ m.isoOffset)

/-- The moment with microseconds, or with whole seconds if there are none, and a separator between
date and time. -/
def Moment.iso (separator : Char) (m : Moment) : List Char :=
  let fraction :=
    if m.time.microsecond = 0 then [] else '.' :: paddedNatural 6 m.time.microsecond
  m.date.iso ++ separator :: m.time.isoSeconds ++ fraction ++ m.isoOffset

/-- The moment with microseconds, or with whole seconds if there are none. -/
def Moment.isoFull (m : Moment) : String := String.ofList (m.iso 'T')

/-! ## In messages -/

/-- A duration in words: whole days and the seconds of the last one, as far as there are any. -/
def durationText (minutes : Int) : String :=
  let days := minutes.fdiv 1440
  let seconds := minutes.fmod 1440 * 60
  if days = 0 ∧ seconds = 0 then "datetime.timedelta(0)"
  else if days = 0 then s!"datetime.timedelta(seconds={seconds})"
  else if seconds = 0 then s!"datetime.timedelta(days={days})"
  else s!"datetime.timedelta(days={days}, seconds={seconds})"

/-- An offset from UTC of so many minutes in words. -/
def zoneText (minutes : Int) : String :=
  if minutes = 0 then "datetime.timezone.utc" else s!"datetime.timezone({durationText minutes})"

/-- The numbers that a moment is told by: seconds only if there are any, or microseconds. -/
def Moment.numbers (m : Moment) : List Nat :=
  [m.date.year, m.date.month, m.date.day, m.time.hour, m.time.minute] ++
    if m.time.microsecond ≠ 0 then [m.time.second, m.time.microsecond]
    else if m.time.second ≠ 0 then [m.time.second]
    else []

end Sequencer

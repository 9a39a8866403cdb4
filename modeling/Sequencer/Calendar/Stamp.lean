import Sequencer.Calendar.Moment
import Sequencer.Text.Integer

/-!
# Clock stamps

A stamp is a moment written as seventeen digits, `YYYYMMDDHHMMSSmmm`, without an offset.

`stamp?` renders one. The year is not padded, so a year below 1000 gives too short a text and is
refused. `readStamp` reads one: its first fourteen characters are matched against a pattern of
six fields, each a list of alternatives of which the first that lets the rest match is taken,
and what the pattern leaves over is an error; the date must exist; the last three characters are
the milliseconds.
-/

namespace Sequencer

open Text

/-- The number of characters of a stamp. -/
def stampWidth : Nat := 17

/-- Why a moment has no stamp, or a text is none. -/
inductive StampFault
  /-- The moment's rendering has not seventeen digits. -/
  | wrongWidth (rendering : String)
  /-- The text is not seventeen digits. -/
  | notDigits (text : String)
  /-- No way of cutting the text into fields. -/
  | noMatch (text : String)
  /-- The fields end before the text does. -/
  | leftOver (rest : String)
  /-- The year is zero. -/
  | yearZero
  /-- The month has no such day. -/
  | noSuchDay
  /-- A leap second. -/
  | noSuchSecond
  /-- The milliseconds are digits, but not decimals. -/
  | badMilliseconds (text : String)
  deriving DecidableEq, Repr

/-- The text of a fault. -/
def StampFault.message : StampFault → String
  | wrongWidth rendering =>
    s!"Clock reading does not render as {stampWidth} digits: {quoted rendering}"
  | notDigits text => s!"Expected {stampWidth} digits, got {quoted text}"
  | noMatch text => s!"time data {quoted text} does not match format '%Y%m%d%H%M%S'"
  | leftOver rest => s!"unconverted data remains: {rest}"
  | yearZero => "year 0 is out of range"
  | noSuchDay => "day is out of range for month"
  | noSuchSecond => "second must be in 0..59"
  | badMilliseconds text => s!"invalid literal for int() with base 10: {quoted text}"

/-! ## Rendering -/

/-- Date and time as digits, whatever their number. -/
def Moment.digits (m : Moment) : List Char :=
  natural m.date.year ++ paddedNatural 2 m.date.month ++ paddedNatural 2 m.date.day
    ++ paddedNatural 2 m.time.hour ++ paddedNatural 2 m.time.minute
    ++ paddedNatural 2 m.time.second ++ paddedNatural 3 (m.time.microsecond / 1000)

/-- The stamp of a moment. -/
def Moment.stamp? (m : Moment) : Except StampFault (List Char) :=
  if m.digits.length = stampWidth ∧ m.digits.all Text.isDigit then .ok m.digits
  else .error (.wrongWidth (String.ofList m.digits))

/-! ## Fields -/

/-- One of the ways to write a field: a class for each character. -/
abbrev Alternative := List (Char → Bool)

/-- The ASCII digits between two, ends included. -/
def between (low high : Char) (c : Char) : Bool := low ≤ c && c ≤ high

/-- The character itself. -/
def exactly (d : Char) (c : Char) : Bool := c == d

/-- The fields of the first fourteen characters, with their alternatives in order: year, month,
day, hour, minute and second. -/
def stampFields : List (List Alternative) :=
  [ [[isDecimal, isDecimal, isDecimal, isDecimal]],
    [[exactly '1', between '0' '2'], [exactly '0', between '1' '9'], [between '1' '9']],
    [[exactly '3', between '0' '1'], [between '1' '2', isDecimal],
      [exactly '0', between '1' '9'], [between '1' '9']],
    -- From here on a single digit may be any decimal, a zero included.
    [[exactly '2', between '0' '3'], [between '0' '1', isDecimal], [isDecimal]],
    [[between '0' '5', isDecimal], [isDecimal]],
    [[exactly '6', between '0' '1'], [between '0' '5', isDecimal], [isDecimal]] ]

/-- Takes the characters of one alternative off the front of the text. -/
def takeAlternative? : Alternative → List Char → Option (List Char × List Char)
  | [], text => some ([], text)
  | _ :: _, [] => none
  | p :: ps, c :: rest =>
    if p c then (takeAlternative? ps rest).map fun (taken, r) => (c :: taken, r) else none

/-- Cuts fields off the front of the text: the first alternative of each field with which the
fields after it can be cut off too. -/
def takeFields? : List (List Alternative) → List Char → Option (List (List Char) × List Char)
  | [], text => some ([], text)
  | field :: fields, text =>
    field.findSome? fun alternative =>
      match takeAlternative? alternative text with
      | none => none
      | some (taken, rest) => (takeFields? fields rest).map fun (more, r) => (taken :: more, r)

theorem append_of_takeAlternative? {alternative : Alternative} {text taken rest : List Char}
    (h : takeAlternative? alternative text = some (taken, rest)) : taken ++ rest = text := by
  induction alternative generalizing text taken with
  | nil => cases h; rfl
  | cons p ps ih =>
    cases text with
    | nil => cases h
    | cons c text =>
      unfold takeAlternative? at h
      split at h
      · obtain ⟨⟨t, r⟩, ht, he⟩ := Option.map_eq_some_iff.1 h
        cases he
        rw [List.cons_append, ih ht]
      · cases h

/-- Cutting loses nothing: the fields and what is left over are the text. -/
theorem flatten_append_of_takeFields? {fields : List (List Alternative)} {text rest : List Char}
    {taken : List (List Char)} (h : takeFields? fields text = some (taken, rest)) :
    taken.flatten ++ rest = text := by
  induction fields generalizing text taken with
  | nil => cases h; rfl
  | cons field fields ih =>
    obtain ⟨alternative, -, h⟩ := List.exists_of_findSome?_eq_some h
    split at h
    · cases h
    · rename_i front behind hf
      obtain ⟨⟨more, r⟩, hm, he⟩ := Option.map_eq_some_iff.1 h
      cases he
      rw [List.flatten_cons, List.append_assoc, ih hm, append_of_takeAlternative? hf]

/-- The number that decimals of any script read as. -/
def decimalsValue (text : List Char) : Nat :=
  text.foldl (fun n c => 10 * n + (decimalValue? c).getD 0) 0

/-! ## Reading -/

/-- The moment that fourteen characters and three stand for. -/
def readStampParts (front back : List Char) : Except StampFault Moment :=
  match takeFields? stampFields front with
  | some ([year, month, day, hour, minute, second], rest) =>
    if rest ≠ [] then .error (.leftOver (String.ofList rest))
    else if decimalsValue year = 0 then .error .yearZero
    else
      match Date.of? (decimalsValue year) (decimalsValue month) (decimalsValue day) with
      | none => .error .noSuchDay
      | some date =>
        if decimalsValue second ≥ 60 then .error .noSuchSecond
        else if ! back.all isDecimal then .error (.badMilliseconds (String.ofList back))
        else
          match TimeOfDay.of? (decimalsValue hour) (decimalsValue minute) (decimalsValue second)
              (decimalsValue back * 1000) with
          | none => .error .noSuchSecond
          | some time => .ok { date, time, offset := none }
  | _ => .error (.noMatch (String.ofList front))

/-- Reads a stamp. -/
def readStamp (text : String) : Except StampFault Moment :=
  if text.length = stampWidth ∧ text.toList.all Text.isDigit then
    readStampParts (text.toList.take 14) (text.toList.drop 14)
  else .error (.notDigits text)

end Sequencer

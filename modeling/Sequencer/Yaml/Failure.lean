import Sequencer.Calendar.Iso
import Sequencer.Text.Integer

/-!
# Why a YAML text is not read

Most faults of a text are not told apart. The others come from a scalar whose tag promises a
value that its text does not give.
-/

namespace Sequencer.Yaml

open Text

/-- Why a date and a time do not exist. -/
inductive TimeFault
  | yearZero
  | badMonth
  | noSuchDay
  | badHour
  | badMinute
  | badSecond
  /-- An offset from UTC of a day or more, in minutes. -/
  | badOffset (minutes : Int)
  deriving DecidableEq, Repr

/-- Why a text is not read. -/
inductive Failure
  /-- The text breaks a rule of the notation, or a tag has no meaning here. -/
  | malformed
  /-- An escape names a character that there is none of. -/
  | noSuchCharacter
  /-- An escape names a character by a number of more than thirty-one bits. -/
  | hugeCharacter
  /-- An integer's text is none. -/
  | integer (fault : IntegerFault)
  /-- A double's text is none. -/
  | double (text : String)
  /-- A number's text has no digits at all. -/
  | emptyNumber
  /-- A truth value's text is none. -/
  | truthValue (text : String)
  /-- A time's text is none. -/
  | notTime
  /-- A time that does not exist. -/
  | time (fault : TimeFault)
  deriving DecidableEq, Repr

/-- The text of a fault of time. -/
def TimeFault.message : TimeFault → String
  | yearZero => "year 0 is out of range"
  | badMonth => "month must be in 1..12"
  | noSuchDay => "day is out of range for month"
  | badHour => "hour must be in 0..23"
  | badMinute => "minute must be in 0..59"
  | badSecond => "second must be in 0..59"
  | badOffset minutes =>
    "offset must be a timedelta strictly between -timedelta(hours=24) and "
      ++ s!"timedelta(hours=24), not {durationText minutes}."

/-- The text of a failure, if it has one of its own. -/
def Failure.message? : Failure → Option String
  | malformed | hugeCharacter | emptyNumber | notTime => none
  | noSuchCharacter => some "chr() arg not in range(0x110000)"
  | integer fault => some fault.message
  | double text => some s!"could not convert string to float: {quoted text}"
  | truthValue text => some text
  | time fault => some fault.message

end Sequencer.Yaml

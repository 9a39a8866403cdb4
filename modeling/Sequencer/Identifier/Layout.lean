import Sequencer.Calendar.Stamp
import Sequencer.Text.Integer

/-!
# The layout of an identifier

An identifier is a stamp, a counter segment and a random suffix, all digits, one after another.
The counter segment is as wide as the decimal text of the counter's ceiling, so that all values
from zero to the ceiling have segments of one width. `wellFormed` is the test of width and
digits that every composed identifier must pass.
-/

namespace Sequencer

open Text

/-- The ceiling of a counter for which none was asked. -/
def defaultCeiling : Int := 1000

/-- The number of characters of a suffix. -/
def suffixWidth : Nat := 6

/-- The least suffix. -/
def suffixMin : Nat := 100000

/-- The greatest suffix. -/
def suffixMax : Nat := 999999

namespace Identifier

/-- The number of characters of the ceiling's decimal text, a minus sign included. -/
def counterWidth (ceiling : Int) : Nat := (integer ceiling).length

/-- A counter value filled up with zeros to the width of the ceiling, never cut. -/
def counterSegment (value ceiling : Int) : List Char := padded (counterWidth ceiling) value

/-- The number of characters of an identifier under a ceiling. -/
def length (ceiling : Int) : Nat := stampWidth + counterWidth ceiling + suffixWidth

/-- Whether a text has the width of an identifier and holds ASCII digits only. -/
def wellFormed (ceiling : Int) (text : String) : Bool :=
  text.length = length ceiling && text.toList.all Char.isDigit

end Identifier

end Sequencer

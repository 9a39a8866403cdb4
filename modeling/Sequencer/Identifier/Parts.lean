import Sequencer.Identifier.Layout

/-!
# The parts of an identifier

`Identifier.parse` takes an identifier apart: it must be well formed, its stamp must be the
stamp of a moment, its counter must not exceed the ceiling and its suffix must be in range. Of
several faults the first in this order is reported.
-/

namespace Sequencer.Identifier

open Text

/-- Why a text is no identifier under a ceiling. -/
inductive Fault
  /-- Not the right number of ASCII digits. -/
  | notWellFormed (expected : Nat) (text : String)
  /-- The stamp is that of no moment. -/
  | badStamp (stamp : String) (fault : StampFault)
  /-- The counter segment exceeds the ceiling. -/
  | overCeiling (counter : Nat) (ceiling : Int)
  /-- The suffix is out of range. -/
  | badSuffix (suffix : Nat)
  deriving DecidableEq, Repr

/-- The text of a fault. -/
def Fault.message : Fault → String
  | notWellFormed expected text => s!"Expected {expected} ASCII digits, got {quoted text}"
  | badStamp stamp _ => s!"Invalid timestamp segment: {stamp}"
  | overCeiling counter ceiling => s!"Counter segment {counter} exceeds ceiling {ceiling}"
  | badSuffix suffix => s!"Random suffix {suffix} out of range"

/-- What an identifier tells: its moment, to the millisecond, its counter and its suffix. -/
structure Parts where
  moment : Moment
  counter : Nat
  suffix : Nat
  deriving DecidableEq, Repr

/-- Takes an identifier apart. -/
def parse (ceiling : Int) (text : String) : Except Fault Parts :=
  if ! wellFormed ceiling text then .error (.notWellFormed (length ceiling) text)
  else
    let stamp := String.ofList (text.toList.take stampWidth)
    let rest := text.toList.drop stampWidth
    let counter := naturalValue (rest.take (counterWidth ceiling))
    let suffix := naturalValue (rest.drop (counterWidth ceiling))
    match readStamp stamp with
    | .error fault => .error (.badStamp stamp fault)
    | .ok moment =>
      if counter > ceiling then .error (.overCeiling counter ceiling)
      else if suffix < suffixMin ∨ suffixMax < suffix then .error (.badSuffix suffix)
      else .ok { moment, counter, suffix }

end Sequencer.Identifier

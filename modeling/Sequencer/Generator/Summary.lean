import Sequencer.Identifier.Layout
import Sequencer.Number
import Sequencer.Value

/-!
# The summary of a batch

How many identifiers a batch delivered, how many different ones, how many that are not well
formed, and how long it took. `tally` counts; `summarise` fails where the ceiling cannot be written
or the duration cannot be told.
-/

namespace Sequencer

/-- The account of a batch. -/
structure BatchSummary where
  total : Nat
  unique : Nat
  malformed : Nat
  threads : Int
  perThread : Int
  durationMs : Int
  ceiling : Int
  deriving DecidableEq, Repr

/-- How many identifiers repeat another one. -/
def BatchSummary.duplicates (s : BatchSummary) : Nat := s.total - s.unique

/-- Whether every identifier is well formed and none repeats another. -/
def BatchSummary.healthy (s : BatchSummary) : Bool := s.duplicates = 0 && s.malformed = 0

/-- The summary as a value. -/
def BatchSummary.fields (s : BatchSummary) : List (String × Value) :=
  [("total", .int s.total), ("unique", .int s.unique), ("malformed", .int s.malformed),
    ("threads", .int s.threads), ("per_thread", .int s.perThread),
    ("duration_ms", .int s.durationMs), ("max_per_msec_size", .int s.ceiling),
    ("duplicates", .int s.duplicates)]

/-- The number of different texts in a list. -/
def distinctCount : List String → Nat
  | [] => 0
  | text :: rest => if text ∈ rest then distinctCount rest else distinctCount rest + 1

/-- Why a duration cannot be told. -/
inductive DurationFault
  /-- An integer is too large for a double. -/
  | tooLarge
  /-- The duration is infinite. -/
  | infinite
  /-- The duration is not a number. -/
  | notANumber
  deriving DecidableEq, Repr

/-- The text of a fault. -/
def DurationFault.message : DurationFault → String
  | tooLarge => "int too large to convert to float"
  | infinite => "cannot convert float infinity to integer"
  | notANumber => "cannot convert float NaN to integer"

/-- The whole milliseconds between two times in seconds, toward zero. -/
def durationMs (started ended : Number) : Except DurationFault Int :=
  match do (← ended.sub? started).mul? (.int 1000) with
  | none => .error .tooLarge
  | some milliseconds =>
    match milliseconds.truncate? with
    | some n => .ok n
    | none => .error (if milliseconds = .float .nan then .notANumber else .infinite)

/-- The counts of a batch that lasted so long. -/
def tally (identifiers : List String) (threads perThread ceiling durationMs : Int) :
    BatchSummary where
  total := identifiers.length
  unique := distinctCount identifiers
  malformed := identifiers.countP fun text => ! Identifier.wellFormed ceiling text
  threads := threads
  perThread := perThread
  durationMs := durationMs
  ceiling := ceiling

/-- Why a batch is not summed up. -/
inductive SummaryFault
  /-- The ceiling has too many digits to be written, so that there is no width to compare with. -/
  | longCeiling
  /-- The duration cannot be told. -/
  | duration (fault : DurationFault)
  deriving DecidableEq, Repr

/-- The text of a fault. -/
def SummaryFault.message : SummaryFault → String
  | longCeiling => Text.longMessage
  | duration fault => fault.message

/-- Sums up a batch, given how long it lasted if that can be told. The ceiling is written once for
each identifier, so it does not matter for an empty batch. -/
def summarise (identifiers : List String) (threads perThread ceiling : Int)
    (duration : Except DurationFault Int) : Except SummaryFault BatchSummary :=
  if identifiers ≠ [] ∧ Text.isLong ceiling then .error .longCeiling
  else
    match duration with
    | .error fault => .error (.duration fault)
    | .ok durationMs => .ok (tally identifiers threads perThread ceiling durationMs)

end Sequencer

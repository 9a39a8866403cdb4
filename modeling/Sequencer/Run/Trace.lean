import Sequencer.Config.Loading
import Sequencer.Generator.Summary
import Sequencer.Log.Logger

/-!
# What a run leaves behind

While a command runs it writes to its logs, to files and to the standard output. `Trace` holds
all three. A command that does not come to its end fails in one of two ways: a failure of the
domain is logged under the code of its kind, any other is passed on as it is.

What a generator reports is logged without the name of the run: a failure as an error with the
code of its kind, a counter that starts again for debugging only.
-/

namespace Sequencer

/-- The record of a notice. -/
def Notice.record : Notice → Log.Record
  | failed fault => {
      level := .error
      message := "sequence generation failed: " ++ fault.message
      fields := [("event", .text "GENERATE_FAIL"), ("status", .text "error"),
        ("error_code", .text fault.kind.code)]
      exception := none }
  | counterReset => {
      level := .debug
      message := "counter reset"
      fields := [("event", .text "COUNTER_RESET"), ("status", .text "ok")]
      exception := none }

namespace Run

/-- A failure that is none of the domain. -/
inductive Unexpected
  /-- No name is made for the run. -/
  | runId (fault : GenerationFault)
  /-- The configuration is not read. -/
  | load (failure : LoadFailure)
  /-- There is no such clock. -/
  | clock (name : String)
  /-- The batch is not summed up. -/
  | summary (fault : SummaryFault)
  /-- The account of the batch has no text. -/
  | document (fault : Json.Fault)
  /-- A file is not written. -/
  | file (fault : FileFault)

/-- Why a command does not come to its end. -/
inductive Failure
  | expected (kind : FailureKind) (message : String)
  | unexpected (cause : Unexpected)

/-- What loading a configuration fails with. -/
def Failure.ofLoad : LoadFailure → Failure
  | .config (.fault fault) => expected .config fault.message
  | failure => unexpected (.load failure)

/-- What building a generator fails with. -/
def Failure.ofBuild : BuildFault → Failure
  | .counter fault => expected .config fault.message
  | .unknownClock name => unexpected (.clock name)

/-- The logs with the files, the lines printed, and the waits between attempts. -/
structure Trace where
  logs : Log.Logs
  printed : List String
  waits : List Number

namespace Trace

/-- Logs a record of a run. -/
def log (t : Trace) (now : Moment) (runId : String) (record : Log.Record) : Trace :=
  { t with logs := t.logs.write now (Log.runName runId) record }

/-- Logs records of a run in order. -/
def logAll (t : Trace) (now : Moment) (runId : String) (records : List Log.Record) : Trace :=
  records.foldl (fun t => t.log now runId) t

/-- Writes a file. -/
def write (t : Trace) (path : Path) (content : String) : Except FileFault Trace :=
  (t.logs.files.write path content).map fun files => { t with logs := { t.logs with files } }

/-- Delivers identifiers, to a file or to the standard output. -/
def putIdentifiers (t : Trace) (target : Option Path) (identifiers : List String) :
    Except FileFault Trace :=
  match target with
  | some path => t.write path (linesText identifiers)
  | none => .ok { t with printed := t.printed ++ identifiers }

/-- Writes the account of a batch, if it is asked for. -/
def putSummary (t : Trace) (target : Option Path) (runId : String) (summary : BatchSummary) :
    Except Unexpected Trace :=
  match target with
  | none => .ok t
  | some path =>
    match Json.document? (Value.ofFields (("run_id", .text runId) :: summary.fields)) with
    | .error fault => .error (.document fault)
    | .ok content => (t.write path content).mapError .file

end Trace

/-! ## Records -/

/-- The record of an event of a run. -/
def eventRecord (runId message event status : String) (fields : List (String × Value)) :
    Log.Record where
  level := .info
  message := message
  fields := [("run_id", .text runId), ("event", .text event), ("status", .text status)] ++ fields
  exception := none

end Run

end Sequencer

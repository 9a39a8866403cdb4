import Sequencer.CommandLine.Invocation
import Sequencer.Generator.Schedule
import Sequencer.Run.Trace

/-!
# The command `generate`

The configuration is loaded, a generator built of it, a batch made, and the identifiers and
perhaps the account of the batch delivered. Nothing is delivered before the whole batch is made.
A run whose identifiers are all well formed and different is a success, another one is flawed.
-/

namespace Sequencer.Run

open CommandLine (Options)

/-- How a run ends. -/
inductive Status
  | success
  /-- There are identifiers that are not well formed or repeat others. -/
  | flawed
  | failure
  deriving DecidableEq, Repr

/-- The number that a status is told by. -/
def Status.code : Status → Nat
  | success => 0
  | flawed => 10
  | failure => 20

/-- What a run asks from outside. The waits between attempts are always slept, however long. -/
structure Surroundings where
  localClock : Script ClockAnswer
  utcClock : Script ClockAnswer
  /-- What the lines of logs show as their time. -/
  now : Moment
  random : RandomSource
  /-- The seconds of a clock that only runs forward. -/
  timer : Script Number
  /-- The fraction of its bound that is added to a wait. -/
  fraction : Binary64
  /-- The workers of a batch in the order in which they take turns. -/
  turns : List Nat := []
  files : FileTree
  /-- The counter behind the names of runs. -/
  runIds : Counter

/-- The clock of a mode. -/
def Surroundings.clock (s : Surroundings) : ClockMode → Script ClockAnswer
  | .local => s.localClock
  | .utc => s.utcClock

/-- An option that is set to the empty text counts as not given. -/
def given (option : Option String) : Option String := option.filter (· ≠ "")

/-- The file that an option names. -/
def target (option : Option String) : Option Path := (given option).map Path.ofText

/-- The settings with the ceiling of the options in place of the configured one. -/
def overridden (settings : Settings) (o : Options) : Settings :=
  { settings with ceiling := o.ceiling.getD settings.ceiling }

/-- The settings and the generator that a run has. -/
def prepare (o : Options) (s : Surroundings) (files : FileTree) :
    Except Failure (Settings × Generator) :=
  match files.loadSettings false (Path.ofText o.configDirectory) (target o.overlayDirectory) with
  | .error failure => .error (.ofLoad failure)
  | .ok settings =>
    let settings := overridden settings o
    match Generator.build settings s.clock s.random with
    | .error fault => .error (.ofBuild fault)
    | .ok generator => .ok (settings, generator)

/-- The record of the beginning. -/
def startRecord (o : Options) (runId : String) : Log.Record :=
  eventRecord runId "generate start" "GENERATE_START" "ok"
    [("count", .int o.count), ("threads", .int o.threads)]

/-- The record of the end. -/
def endRecord (o : Options) (runId : String) (summary : BatchSummary) : Log.Record :=
  eventRecord runId "generate end" "GENERATE_END" (if summary.healthy then "ok" else "partial")
    [("count", .int summary.total), ("threads", .int o.threads),
      ("duration_ms", .int summary.durationMs)]

/-- Delivers a batch and the account of it. -/
def deliver (o : Options) (s : Surroundings) (runId : String) (identifiers : List String)
    (summary : BatchSummary) (t : Trace) : Except Failure Status × Trace :=
  match t.putIdentifiers (target o.output) identifiers with
  | .error fault => (.error (.unexpected (.file fault)), t)
  | .ok t =>
    match t.putSummary (target o.summary) runId summary with
    | .error cause => (.error (.unexpected cause), t)
    | .ok t =>
      (.ok (if summary.healthy then .success else .flawed),
        t.log s.now runId (endRecord o runId summary))

/-- Makes a batch, logs what the generator reports, and sums the batch up. -/
def makeBatch (o : Options) (s : Surroundings) (runId : String) (settings : Settings)
    (generator : Generator) (t : Trace) :
    Except Failure (List String × BatchSummary) × Trace :=
  let run := generator.generateBatchIn s.turns o.threads o.count settings.retry s.fraction
  let t := t.logAll s.now runId (run.notices.map Notice.record)
  let t := { t with waits := t.waits ++ run.waits }
  match run.result with
  | .error fault => (.error (.expected fault.kind fault.message), t)
  | .ok identifiers =>
    let duration := durationMs s.timer.next.1 s.timer.next.2.next.1
    match summarise identifiers o.threads o.count settings.ceiling duration with
    | .error fault => (.error (.unexpected (.summary fault)), t)
    | .ok summary => (.ok (identifiers, summary), t)

/-- Runs the command. -/
def generate (o : Options) (s : Surroundings) (runId : String) (t : Trace) :
    Except Failure Status × Trace :=
  match prepare o s t.logs.files with
  | .error failure => (.error failure, t)
  | .ok (settings, generator) =>
    let t := t.log s.now runId (startRecord o runId)
    match makeBatch o s runId settings generator t with
    | (.error failure, t) => (.error failure, t)
    | (.ok (identifiers, summary), t) => deliver o s runId identifiers summary t

end Sequencer.Run

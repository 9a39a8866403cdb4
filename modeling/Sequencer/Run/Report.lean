import Sequencer.Identifier.Parts
import Sequencer.Run.Generate

/-!
# The command `inspect` and a whole run

The command `inspect` takes an identifier apart and prints its parts as a line of JSON with sorted
keys. A ceiling of zero counts as not given.

`Invocation.run` gives a run its name, builds its logger and runs the command. The name is that
of the options, or one made with a generator of its own that serves all runs. A failure of the
domain is logged as an event of the run.
-/

namespace Sequencer.Run

open CommandLine (Options)

/-! ## Inspecting -/

/-- The ceiling that an identifier is read with. -/
def inspectCeiling (o : Options) : Int := (o.ceiling.filter (· ≠ 0)).getD defaultCeiling

/-- The line for an identifier with its parts. -/
def partsLine (identifier : String) (parts : Identifier.Parts) : String :=
  String.ofList (Json.line .nonAscii (Json.sortKeys (Value.ofFields
    [("identifier", .text identifier), ("timestamp", .text parts.moment.isoMilliseconds),
      ("counter", .int parts.counter), ("suffix", .int parts.suffix)])))

/-- The line that is printed. -/
def inspectLine (o : Options) (identifier : Option String) : Except Failure String :=
  match given identifier with
  | none => .error (.expected .sequence "inspect requires an identifier argument")
  | some text =>
    match Identifier.parse (inspectCeiling o) text with
    | .error fault => .error (.expected .identifierFormat fault.message)
    | .ok parts => .ok (partsLine text parts)

/-- Runs the command. -/
def inspect (o : Options) (identifier : Option String) (t : Trace) :
    Except Failure Status × Trace :=
  match inspectLine o identifier with
  | .error failure => (.error failure, t)
  | .ok line => (.ok .success, { t with printed := t.printed ++ [line] })

/-! ## Running -/

/-- What a run comes to. -/
structure Report where
  status : Status
  /-- The lines on the standard output. -/
  printed : List String
  /-- The lines of logs on the console. -/
  console : List String
  files : FileTree
  /-- A failure that is none of the domain. -/
  unexpected : Option Unexpected
  waits : List Number
  /-- The counter behind the names of runs. -/
  runIds : Counter

/-- The report of a run that ended. -/
def Report.ended (s : Surroundings) (t : Trace) (status : Status)
    (unexpected : Option Unexpected) : Report where
  status := status
  printed := t.printed
  console := t.logs.console
  files := t.logs.files
  unexpected := unexpected
  waits := t.waits
  runIds := s.runIds

/-- A trace of nothing. -/
def Surroundings.untouched (s : Surroundings) : Trace := ⟨⟨.none, s.files, []⟩, [], []⟩

/-- Makes a name for a run. -/
def Surroundings.makeRunId (s : Surroundings) : Except GenerationFault String × Surroundings :=
  let outcome := Generator.generate ⟨s.runIds, .new s.localClock s.random⟩
  let after := outcome.generator
  (outcome.result.map ("run-" ++ ·),
    { s with
      runIds := after.counter
      localClock := after.sources.clock
      random := after.sources.random })

/-- The name of a run. -/
def Surroundings.runId (s : Surroundings) (o : CommandLine.Options) :
    Except GenerationFault String × Surroundings :=
  match given o.runId with
  | some runId => (.ok runId, s)
  | none => s.makeRunId

/-- The record of a command that failed. -/
def failRecord (command : Command) (runId : String) (kind : FailureKind) (message : String) :
    Log.Record :=
  eventRecord runId s!"{command.name} failed: {message}" "COMMAND_FAIL" "error"
    [("error_code", .text kind.code)]

/-- Runs the command of an invocation. -/
def perform (i : Invocation) (s : Surroundings) (runId : String) (t : Trace) :
    Except Failure Status × Trace :=
  match i.command with
  | .generate => generate i.options s runId t
  | .inspect => inspect i.options i.identifier t

/-- Runs a command under a name, once its logger is built. -/
def runLogged (i : Invocation) (s : Surroundings) (runId : String) (t : Trace) : Report :=
  match perform i s runId t with
  | (.ok status, t) => .ended s t status none
  | (.error (.unexpected cause), t) => .ended s t .failure cause
  | (.error (.expected kind message), t) =>
    .ended s (t.log s.now runId (failRecord i.command runId kind message)) .failure none

/-- Runs a command under a name. -/
def runNamed (i : Invocation) (s : Surroundings) (runId : String) : Report :=
  let t := s.untouched
  match t.logs.install runId i.options.logLevel (target i.options.logFile) with
  | (.error fault, logs) => .ended s { t with logs } .failure (some (.file fault))
  | (.ok (), logs) => runLogged i s runId { t with logs }

end Run

/-- Runs what a command line asks for. -/
def Invocation.run (i : Invocation) (s : Run.Surroundings) : Run.Report :=
  match s.runId i.options with
  | (.error fault, s) => .ended s s.untouched .failure (some (.runId fault))
  | (.ok runId, s) => Run.runNamed i s runId

end Sequencer

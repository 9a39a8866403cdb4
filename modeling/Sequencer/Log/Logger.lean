import Sequencer.Files.Tree
import Sequencer.Log.Record
import Sequencer.Text.CaseMap

/-!
# Loggers

Loggers have dotted names and form a tree: above a logger is the one whose name is its own up to
a dot, or else the next shorter one. A logger takes a record if it is urgent enough for its own
level, or, without one, for that of the next logger above it that has one. A record that is
taken goes to the logger's own outputs and then to those of all loggers above it, whatever their
levels. An output is the console or a file.

When names are shortened dot by dot, a dot right before the one that was cut at is passed over.
-/

namespace Sequencer.Log

open Text

/-- Where a logger writes. -/
inductive Output
  | console
  | file (place : Place)
  deriving DecidableEq, Repr

/-- A logger. -/
structure Logger where
  level : Level
  outputs : List Output
  deriving DecidableEq, Repr

/-- The loggers there are, by name. -/
structure Loggers where
  byName : List (String × Logger)

/-- The name above the names of all loggers of runs. -/
def rootName : String := "seqgen"

/-- The name of the logger of a run. -/
def runName (runId : String) : String := rootName ++ "." ++ runId

/-! ## The tree -/

/-- The names that a name is shortened to, the longest first. The characters of a name and of the
results are in reverse order. -/
def shortened (name : List Char) : List (List Char) :=
  if (name.dropWhile (· ≠ '.')).tail = [] then []
  else (name.dropWhile (· ≠ '.')).tail :: shortened (name.dropWhile (· ≠ '.')).tail.tail
termination_by name.length
decreasing_by
  rename_i h
  have h₁ := List.length_pos_iff.2 h
  have h₂ := (List.dropWhile_sublist (l := name) (fun c => decide (c ≠ '.'))).length_le
  simp at h₁ h₂ ⊢
  omega

/-- The names above a name, the nearest first. -/
def namesAbove (name : String) : List String :=
  (shortened name.toList.reverse).map fun chars => String.ofList chars.reverse

namespace Loggers

/-- No loggers. -/
def none : Loggers := ⟨[]⟩

/-- The logger of a name. -/
def find? (ls : Loggers) (name : String) : Option Logger := ls.byName.lookup name

/-- The loggers with one in the place of a name. -/
def put (ls : Loggers) (name : String) (logger : Logger) : Loggers :=
  ⟨(name, logger) :: ls.byName.filter (·.1 ≠ name)⟩

/-- The name of the logger right above a name. -/
def above? (ls : Loggers) (name : String) : Option String :=
  (namesAbove name).find? fun n => (ls.find? n).isSome

/-- The loggers from a name upward. No name on the way is longer than the one before it. -/
def upward (ls : Loggers) (name : String) : (fuel : Nat) → List Logger
  | 0 => []
  | fuel + 1 =>
    (ls.find? name).toList ++
      match ls.above? name with
      | some above => ls.upward above fuel
      | Option.none => []

/-- The loggers that a record for a name passes, the name's own first. -/
def passed (ls : Loggers) (name : String) : List Logger := ls.upward name (name.length + 1)

/-- The level that decides what the logger of a name takes. -/
def threshold (ls : Loggers) (name : String) : Level :=
  match (ls.passed name).find? fun logger => logger.level ≠ .unset with
  | some logger => logger.level
  | Option.none => .warning

/-- Whether the logger of a name takes records of a level. -/
def takes (ls : Loggers) (name : String) (level : Level) : Bool :=
  (ls.threshold name).takes level

/-- The outputs that a record for a name goes to, in order. -/
def outputs (ls : Loggers) (name : String) : List Output :=
  (ls.passed name).flatMap Logger.outputs

end Loggers

/-! ## Writing -/

/-- The loggers, the files there are, and the lines on the console. -/
structure Logs where
  loggers : Loggers
  files : FileTree
  console : List String

/-- A line on an output. -/
def Logs.writeLine (logs : Logs) (line : String) : Output → Logs
  | .console => { logs with console := logs.console ++ [line] }
  | .file place => { logs with files := logs.files.appendAt place (line ++ "\n") }

/-- Writes a record for a name, if it is taken. No output gets a line of a record that has none. -/
def Logs.write (logs : Logs) (now : Moment) (name : String) (record : Record) : Logs :=
  if logs.loggers.takes name record.level then
    match record.line? now with
    | .ok line => (logs.loggers.outputs name).foldl (fun logs => logs.writeLine line) logs
    | .error _ => logs
  else logs

/-! ## Building loggers -/

/-- Why a logger is not built. -/
inductive BuildFault
  /-- There is no such level. -/
  | unknownLevel (name : String)
  /-- The file cannot be opened. -/
  | file (fault : FileFault)
  deriving DecidableEq, Repr

/-- The text for a name that no level has. -/
def unknownLevelMessage (name : String) : String := s!"Unknown level: {quoted name}"

/-- The logs with the logger of a run replaced. -/
def Logs.put (logs : Logs) (runId : String) (logger : Logger) : Logs :=
  { logs with loggers := logs.loggers.put (runName runId) logger }

/-- Builds the logger of a run anew, with the console and perhaps a file as outputs. A file that
is not opened leaves it with the console. -/
def Logs.install (logs : Logs) (runId : String) (level : Level) (file : Option Path) :
    Except FileFault Unit × Logs :=
  match file with
  | none => (.ok (), logs.put runId ⟨level, [.console]⟩)
  | some path =>
    match logs.files.append path "" with
    | .error fault => (.error fault, logs.put runId ⟨level, [.console]⟩)
    | .ok (files, place) =>
      (.ok (), { logs with files }.put runId ⟨level, [.console, .file place]⟩)

/-- Builds the logger of a run anew, with a level whose name may be in any case. A level that is
refused leaves the logger as it was. -/
def Logs.build (logs : Logs) (runId levelName : String) (file : Option Path) :
    Except BuildFault Unit × Logs :=
  match Level.ofName? (uppered levelName) with
  | none =>
    let old := (logs.loggers.find? (runName runId)).getD ⟨.unset, []⟩
    (.error (.unknownLevel (uppered levelName)), logs.put runId old)
  | some level =>
    let (result, logs) := logs.install runId level file
    (result.mapError .file, logs)

/-! ## Events -/

/-- The names that a record keeps for itself. -/
def reservedFields : List String :=
  ["message", "asctime", "name", "msg", "args", "levelname", "levelno", "pathname", "filename",
    "module", "exc_info", "exc_text", "stack_info", "lineno", "funcName", "created", "msecs",
    "relativeCreated", "thread", "threadName", "processName", "process"]

/-- Why an event is not logged. -/
inductive EventFault
  /-- A field has the name of something that is given already. -/
  | givenTwice (name : String)
  /-- A field has a name that records keep for themselves. -/
  | reserved (name : String)
  deriving DecidableEq, Repr

/-- The text for a field with a reserved name. -/
def reservedMessage (name : String) : String :=
  s!"Attempt to overwrite {quoted name} in LogRecord"

/-- Logs an event of a run. The names of its fields are looked at only if it is taken, apart from
those that an event has anyway. -/
def Logs.event (logs : Logs) (now : Moment) (runId message : String)
    (fields : List (String × Value)) : Except EventFault Logs :=
  match (fields.map (·.1)).find? fun name => name = "message" || name = "logger" with
  | some name => .error (.givenTwice name)
  | none =>
    if ! logs.loggers.takes (runName runId) .info then .ok logs
    else
      match (fields.map (·.1)).find? (reservedFields.contains ·) with
      | some name => .error (.reserved name)
      | none => .ok (logs.write now (runName runId) ⟨.info, message, fields, none⟩)

end Sequencer.Log

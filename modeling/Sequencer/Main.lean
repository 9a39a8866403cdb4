import Sequencer.CommandLine.Reading
import Sequencer.Run.Report
import Std.Time

/-!
# The program

Reads the command line, asks the clocks, the random source and the file system beforehand for all
that the run may want to know, lets the run happen, and puts what it reports into effect: waits,
lines, files and the exit code.
-/

namespace Sequencer.Program

open Run (Surroundings Report)

/-! ## Files -/

/-- What is at a path whose directory exists. -/
def probe (path : Path) : IO (Option FileEntry) := do
  try
    let bytes ← IO.FS.readBinFile path.text
    return some ((String.fromUTF8? bytes).elim .binary .text)
  catch
    | .noFileOrDirectory .. => return none
    | .inappropriateType .. => return some .directory
    | error => throw error

/-- The tree with all that is on the way to a path and at it. -/
def survey (t : FileTree) (path : Path) : IO FileTree :=
  (List.range path.names.length).foldlM
    (fun t count => do
      let path := { path with names := path.names.take (count + 1) }
      match t.locate path with
      | .error _ => return t
      | .ok place =>
        match ← probe path with
        | some entry => return t.put place entry
        | none => return t)
    t

/-- The paths that a run may look at. -/
def pathsOf (o : CommandLine.Options) : List Path :=
  (Path.ofText o.configDirectory).child configFileName ::
    ((Run.target o.overlayDirectory).map (·.child configFileName)).toList
    ++ [o.output, o.summary, o.logFile].filterMap Run.target

/-- The text of a place. -/
def placeText (p : Place) : String :=
  let names := String.intercalate "/" p.names
  match p.base with
  | .root => "/" ++ names
  | .above levels => String.join (List.replicate levels "../") ++ names

/-- Makes the files and directories of a tree that are not in the one before. -/
def putFiles (before after : FileTree) : IO Unit :=
  after.entries.forM fun (place, entry) => do
    if before.get? place ≠ some entry then
      match entry with
      | .directory => IO.FS.createDirAll (placeText place)
      | .text content => IO.FS.writeFile (placeText place) content
      | .binary => return ()

/-! ## Clocks and random numbers -/

/-- The moment of a date and a time of the standard library. -/
def momentOf? (t : Std.Time.PlainDateTime) (offset : Option Int) : Option Moment := do
  let date ← Date.of? t.date.year.toInt.toNat t.date.month.toNat t.date.day.toNat
  let time ← TimeOfDay.of? t.time.hour.toNat t.time.minute.toNat t.time.second.toNat
    (t.time.nanosecond.toNat / 1000)
  return { date, time, offset }

/-- What the local clock shows. -/
def localMoment : IO (Option Moment) := do
  return momentOf? (← Std.Time.PlainDateTime.now) none

/-- What the clock of UTC shows. -/
def utcMoment : IO (Option Moment) := do
  let now ← Std.Time.Timestamp.now
  let zoned := Std.Time.DateTime.ofTimestampWithZone now Std.Time.TimeZone.UTC
  return momentOf? zoned.toPlainDateTime (some 0)

/-- A reading of a clock. -/
def reading : Option Moment → ClockAnswer
  | some m => .reading m
  | none => .raised "date out of range"

/-- A suffix. -/
def drawSuffix : IO DrawAnswer := do
  let bytes ← IO.getRandomBytes 16
  let n := bytes.toList.foldl (fun n b => 256 * n + b.toNat) 0
  return .value (.int (suffixMin + n % (suffixMax - suffixMin + 1) : Nat))

/-- The seconds of the timer. -/
def seconds : IO Number := do
  return .float (.ofRatio false (← IO.monoNanosNow) 1000000000)

/-- An answer and so many further ones. -/
def scriptOf {α : Type} (ask : IO α) (further : Nat) : IO (Script α) := do
  let first ← ask
  let rest ← (List.range further).mapM fun _ => ask
  return ⟨first, rest⟩

/-- All that a run may ask from outside. It asks for the name of the run once, and once for each
identifier. -/
def surroundings (o : CommandLine.Options) : IO Surroundings := do
  let asked := o.threads.toNat * o.count.toNat
  let now ← utcMoment
  let files ← (pathsOf o).foldlM survey .empty
  return {
    localClock := ← scriptOf (reading <$> localMoment) asked
    utcClock := ← scriptOf (reading <$> utcMoment) asked
    now := now.getD ⟨⟨1970, 1, 1, by decide⟩, ⟨0, 0, 0, 0, by decide, by decide, by decide,
      by decide⟩, some 0⟩
    random := .scripted (← scriptOf drawSuffix asked)
    timer := ← scriptOf seconds 1
    fraction := .ofRatio false (← IO.rand 0 999999) 1000000
    files
    runIds := ⟨defaultCeiling, 0⟩ }

/-! ## Running -/

/-- Waits for so many seconds. -/
def pause (wait : Number) : IO Unit := do
  match (wait.mul? (.int 1000)).bind Number.truncate? with
  | some milliseconds => IO.sleep milliseconds.toNat.toUInt32
  | none => return ()

/-- Puts a report into effect. -/
def perform (before : FileTree) (report : Report) : IO UInt32 := do
  report.waits.forM pause
  report.console.forM fun line => IO.eprintln line
  report.printed.forM fun line => IO.println line
  putFiles before report.files
  if report.unexpected.isSome then IO.eprintln "unexpected failure"
  return report.status.code.toUInt32

/-- How the program is used. -/
def usage : String :=
  let options := CommandLine.OptionName.all.map fun name => s!"[{name.spelling} VALUE]"
  "usage: sequencer [-h] " ++ String.intercalate " " options ++ " command [identifier]"

end Sequencer.Program

open Sequencer in
/-- The program. -/
def main (words : List String) : IO UInt32 := do
  match CommandLine.read words with
  | .error .help =>
    IO.println Program.usage
    return 0
  | .error (.fault fault) =>
    IO.eprintln Program.usage
    IO.eprintln s!"error: {fault.message}"
    return 2
  | .ok invocation =>
    let before ← Program.surroundings invocation.options
    Program.perform before.files (invocation.run before)

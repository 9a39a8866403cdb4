import Sequencer.Log.Record
import Sequencer.Text.Integer

/-!
# Invocations

What a command line asks for: a command, perhaps an identifier, and the options with what they
are set to. `UsageFault` says what may be wrong with a command line.
-/

namespace Sequencer

open Text

/-- What to do. -/
inductive Command
  /-- Make identifiers. -/
  | generate
  /-- Take an identifier apart. -/
  | inspect
  deriving DecidableEq, Repr

namespace Command

/-- The name of a command. -/
def name : Command → String
  | generate => "generate"
  | inspect => "inspect"

/-- Every command. -/
def all : List Command := [generate, inspect]

/-- The command of a name. -/
def ofName? (name : String) : Option Command := all.find? fun command => command.name = name

end Command

namespace CommandLine

/-- An option that takes an argument. -/
inductive OptionName
  /-- How many identifiers each worker makes. -/
  | count
  | threads
  /-- The ceiling, in place of the configured one. -/
  | ceiling
  | configDirectory
  | overlayDirectory
  /-- The file for the identifiers. -/
  | output
  /-- The file for the account of the batch. -/
  | summary
  | logFile
  | runId
  | logLevel
  deriving DecidableEq, Repr

namespace OptionName

/-- How an option is written. -/
def spelling : OptionName → String
  | count => "--count"
  | threads => "--threads"
  | ceiling => "--max-per-msec-size"
  | configDirectory => "--config-dir"
  | overlayDirectory => "--overlay-config-dir"
  | output => "--output"
  | summary => "--summary"
  | logFile => "--log-file"
  | runId => "--run-id"
  | logLevel => "--log-level"

/-- Every option that takes an argument, in the order in which they are listed. -/
def all : List OptionName :=
  [count, threads, ceiling, configDirectory, overlayDirectory, output, summary, logFile, runId,
    logLevel]

end OptionName

/-- The option that asks for help. -/
def helpSpelling : String := "--help"

/-- The names of the levels that a log can be given. -/
def levelNames : List (String × Log.Level) :=
  [("DEBUG", .debug), ("INFO", .info), ("WARN", .warning), ("ERROR", .error)]

/-- What is wrong with a command line. -/
inductive UsageFault
  /-- The beginning of more than one option. -/
  | ambiguous (written : String) (spellings : List String)
  /-- An option without its argument. -/
  | noArgument (name : OptionName)
  /-- An argument for the option that asks for help. -/
  | helpArgument (text : String)
  /-- An argument that is not an integer. -/
  | notInteger (name : OptionName) (text : String)
  /-- No level of a log. -/
  | unknownLevel (text : String)
  /-- No command. -/
  | unknownCommand (text : String)
  /-- There is no command at all. -/
  | noCommand
  /-- Words that are left over. -/
  | leftOver (words : List String)
  deriving DecidableEq, Repr

/-- The text for one of several choices that was not made. -/
def choiceMessage (text : String) (choices : List String) : String :=
  let shown := String.intercalate ", " (choices.map quoted)
  s!"invalid choice: {quoted text} (choose from {shown})"

/-- The text of a fault. -/
def UsageFault.message : UsageFault → String
  | ambiguous written spellings =>
    let shown := String.intercalate ", " spellings
    s!"ambiguous option: {written} could match {shown}"
  | noArgument name => s!"argument {name.spelling}: expected one argument"
  | helpArgument text => s!"argument -h/{helpSpelling}: ignored explicit argument {quoted text}"
  | notInteger name text => s!"argument {name.spelling}: invalid int value: {quoted text}"
  | unknownLevel text =>
    s!"argument {OptionName.logLevel.spelling}: " ++ choiceMessage text (levelNames.map (·.1))
  | unknownCommand text =>
    "argument command: " ++ choiceMessage text (Command.all.map Command.name)
  | noCommand => "the following arguments are required: command"
  | leftOver words => "unrecognized arguments: " ++ String.intercalate " " words

/-- What the options are set to. -/
structure Options where
  count : Int
  threads : Int
  ceiling : Option Int
  configDirectory : String
  overlayDirectory : Option String
  output : Option String
  summary : Option String
  logFile : Option String
  runId : Option String
  logLevel : Log.Level
  deriving DecidableEq, Repr

/-- The options that are not given. -/
def Options.standard : Options where
  count := 1
  threads := 1
  ceiling := none
  configDirectory := "./config"
  overlayDirectory := none
  output := none
  summary := none
  logFile := none
  runId := none
  logLevel := .info

/-- The integer that is the argument of an option. -/
def readCount (name : OptionName) (text : String) : Except UsageFault Int :=
  (readInteger 10 text).mapError fun _ => .notInteger name text

/-- Sets an option to its argument. -/
def Options.set (o : Options) (name : OptionName) (text : String) : Except UsageFault Options :=
  match name with
  | .count => (readCount name text).map fun n => { o with count := n }
  | .threads => (readCount name text).map fun n => { o with threads := n }
  | .ceiling => (readCount name text).map fun n => { o with ceiling := some n }
  | .configDirectory => .ok { o with configDirectory := text }
  | .overlayDirectory => .ok { o with overlayDirectory := some text }
  | .output => .ok { o with output := some text }
  | .summary => .ok { o with summary := some text }
  | .logFile => .ok { o with logFile := some text }
  | .runId => .ok { o with runId := some text }
  | .logLevel =>
    match levelNames.lookup text with
    | some level => .ok { o with logLevel := level }
    | none => .error (.unknownLevel text)

end CommandLine

/-- What a command line asks for. -/
structure Invocation where
  command : Command
  identifier : Option String
  options : CommandLine.Options
  deriving DecidableEq, Repr

end Sequencer

import Sequencer.CommandLine.Word

/-!
# Reading a command line

The words are read from left to right. The first argument that belongs to no option is the
command; an argument right after it is the identifier, but one that comes later is left over. A
double dash next to the command or the identifier is passed over. `read` answers with the
invocation, or with a `Refusal`: the wish for help, or what is wrong.
-/

namespace Sequencer.CommandLine

/-- Why a command line asks for nothing. -/
inductive Refusal
  /-- Help is asked for. -/
  | help
  | fault (fault : UsageFault)
  deriving DecidableEq, Repr

/-- What the next word may be besides an option. -/
inductive Awaited
  | command
  /-- The identifier, or a double dash before it. -/
  | identifier
  /-- A double dash after the identifier. -/
  | separator
  | nothing
  deriving DecidableEq, Repr

/-- What was read of a command line. -/
structure Reading where
  awaited : Awaited
  command : Option Command
  identifier : Option String
  options : Options
  leftOver : List String

/-- Nothing was read yet. -/
def Reading.start : Reading := ⟨.command, none, none, .standard, []⟩

/-- The reading with one more text left over. -/
def Reading.leave (r : Reading) (text : String) : Reading :=
  { r with awaited := if r.awaited = .command then .command else .nothing,
           leftOver := r.leftOver ++ [text] }

/-- Takes an argument that belongs to no option. A double dash as identifier stands for none. -/
def Reading.argument (r : Reading) (text : String) : Except Refusal Reading :=
  match r.awaited with
  | .command =>
    match Command.ofName? text with
    | some command => .ok { r with awaited := .identifier, command := some command }
    | none => .error (.fault (.unknownCommand text))
  | .identifier =>
    .ok { r with awaited := .separator, identifier := if text = "--" then none else some text }
  | .separator | .nothing => .ok (r.leave text)

/-- Takes a double dash. -/
def Reading.separator (r : Reading) : Reading :=
  match r.awaited with
  | .command | .identifier => r
  | .separator => { r with awaited := .nothing }
  | .nothing => r.leave "--"

/-- Takes an option with its argument. -/
def Reading.option (r : Reading) (name : OptionName) (text : String) : Except Refusal Reading :=
  match r.options.set name text with
  | .ok options =>
    .ok { r with awaited := if r.awaited = .command then .command else .nothing, options }
  | .error fault => .error (.fault fault)

/-- What the short form of the option that asks for help comes to, with what follows its letter:
the same letter may be repeated, and other letters do not count. -/
def shortHelp : List Char → Refusal
  | [] => .help
  | '=' :: text => .fault (.helpArgument (String.ofList text))
  | '-' :: text => .fault (.helpArgument (String.ofList ('-' :: text)))
  | 'h' :: rest => shortHelp rest
  | _ => .help

/-- Takes words. -/
def Reading.words (r : Reading) : List Word → Except Refusal Reading
  | [] => .ok r
  | .help none :: _ => .error .help
  | .help (some text) :: _ => .error (.fault (.helpArgument text))
  | .shortHelp tail :: _ => .error (shortHelp tail)
  | .unknown text :: rest => (r.leave text).words rest
  | .separator :: rest => r.separator.words rest
  | .argument text :: rest => do (← r.argument text).words rest
  | .option name (some text) :: rest => do (← r.option name text).words rest
  -- What looks like an option is never the argument of one.
  | .option name none :: .argument text :: rest => do (← r.option name text).words rest
  | .option name none :: _ => .error (.fault (.noArgument name))

/-- The invocation of a reading that is complete. -/
def Reading.invocation (r : Reading) : Except Refusal Invocation :=
  match r.command with
  | none => .error (.fault .noCommand)
  | some command =>
    if r.leftOver = [] then .ok { command, identifier := r.identifier, options := r.options }
    else .error (.fault (.leftOver r.leftOver))

/-- Reads a command line. -/
def read (texts : List String) : Except Refusal Invocation :=
  match Word.ofTexts texts with
  | .error fault => .error (.fault fault)
  | .ok words => do (← Reading.start.words words).invocation

end Sequencer.CommandLine

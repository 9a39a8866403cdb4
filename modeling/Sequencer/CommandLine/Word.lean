import Sequencer.CommandLine.Invocation

/-!
# Words of a command line

A word is an option or an argument. An option may be cut short as long as no other begins the
same way, and may bring its argument after an equals sign. A word that starts with a dash is an
argument all the same if it is a dash alone, a negative number, or holds a space and begins no
option. After a double dash every word is an argument.
-/

namespace Sequencer.CommandLine

open Text

/-- A word. -/
inductive Word
  | argument (text : String)
  /-- An option, with the argument that it brings. -/
  | option (name : OptionName) (attached : Option String)
  /-- The long form of the option that asks for help. -/
  | help (attached : Option String)
  /-- The short form, with what follows its letter. -/
  | shortHelp (tail : List Char)
  /-- Something like an option that is none. -/
  | unknown (text : String)
  /-- The first double dash. -/
  | separator
  deriving DecidableEq, Repr

/-- Whether a text after a dash makes a negative number: decimals of any script, with at most one
point before the last of them. A line end after it does not count. -/
def isMagnitude (text : List Char) : Bool :=
  -- One line end at the very end is overlooked.
  let text := if text.getLast? = some '\n' then text.dropLast else text
  let isDecimal (c : Char) : Bool := (decimalValue? c).isSome
  match text.dropWhile isDecimal with
  | [] => ! text.isEmpty
  | '.' :: fraction => ! fraction.isEmpty && fraction.all isDecimal
  | _ => false

/-- A word that starts with a dash and begins no option. -/
def Word.ofOther (text : String) : Word :=
  if isMagnitude (text.toList.drop 1) ∨ ' ' ∈ text.toList then .argument text else .unknown text

/-- The long options, each with the word that it makes of an attached argument. -/
def longOptions : List (String × (Option String → Word)) :=
  (helpSpelling, .help) :: OptionName.all.map fun name => (name.spelling, .option name)

/-- Splits a text at its first equals sign. -/
def splitAssignment (text : List Char) : String × Option String :=
  let name := String.ofList (text.takeWhile (· ≠ '='))
  match text.dropWhile (· ≠ '=') with
  | [] => (name, none)
  | _ :: value => (name, some (String.ofList value))

/-- The options that a text is or begins. -/
def candidates (text : String) : List (String × (Option String → Word)) :=
  match longOptions.find? fun entry => entry.1 = text with
  | some entry => [entry]
  | none => longOptions.filter fun entry => text.toList.isPrefixOf entry.1.toList

/-- A word that starts with two dashes. -/
def Word.ofLong (text : String) : Except UsageFault Word :=
  let (name, attached) := splitAssignment text.toList
  match candidates name with
  | [] => .ok (.ofOther text)
  | [(_, word)] => .ok (word attached)
  | several => .error (.ambiguous text (several.map (·.1)))

/-- The word of a text that is not a double dash. -/
def Word.ofText (text : String) : Except UsageFault Word :=
  match text.toList with
  | '-' :: '-' :: _ => Word.ofLong text
  | '-' :: 'h' :: tail => .ok (.shortHelp tail)
  -- A dash alone is an argument.
  | '-' :: _ :: _ => .ok (.ofOther text)
  | _ => .ok (.argument text)

/-- The words of texts. -/
def Word.ofTexts : List String → Except UsageFault (List Word)
  | [] => .ok []
  | text :: rest =>
    if text = "--" then .ok (.separator :: rest.map .argument)
    else do return (← Word.ofText text) :: (← Word.ofTexts rest)

end Sequencer.CommandLine

import Sequencer.Value

/-!
# Writing JSON

Two layouts of one text: on a line, with a space after each comma and colon, and on a page, with
two spaces of indentation for each level and an empty list or mapping closed on the spot. Entries
are written in the order they have; `sortKeys` puts them in the order of their keys' code points
first.

Not every value has a text: JSON has no form for dates, moments, bytes and sets, not every scalar
may be a key, and an integer may have too many digits. `fault?` finds what is met first in writing;
`record?` and `document?` refuse the whole then. `write` leaves out what has no form.
-/

namespace Sequencer.Json

open Text

/-- Which characters of a string are written as escapes besides the quote, the backslash and
the controls: none, or all that are not printable ASCII. -/
inductive Escaping
  | controls
  | nonAscii
  deriving DecidableEq, Repr

/-- A UTF-16 unit as an escape. -/
def unitEscape (unit : Nat) : List Char := '\\' :: 'u' :: hex 4 unit

/-- The units of a character as escapes. -/
def unitEscapes (c : Char) : List Char :=
  if c.toNat < 0x10000 then unitEscape c.toNat
  else unitEscape (0xd800 + (c.toNat - 0x10000) / 0x400)
    ++ unitEscape (0xdc00 + (c.toNat - 0x10000) % 0x400)

/-- A character inside a string. -/
def escape (escaping : Escaping) (c : Char) : List Char :=
  if c = '"' then ['\\', '"']
  else if c = '\\' then ['\\', '\\']
  else if c = '\n' then ['\\', 'n']
  else if c = '\r' then ['\\', 'r']
  else if c = '\t' then ['\\', 't']
  else if c.toNat = 8 then ['\\', 'b']
  else if c.toNat = 12 then ['\\', 'f']
  else if c.toNat < 0x20 then unitEscape c.toNat
  else if escaping = .nonAscii ∧ c.toNat ≥ 0x7f then unitEscapes c
  else [c]

/-- A string between quotes. -/
def string (escaping : Escaping) (text : List Char) : List Char :=
  '"' :: text.flatMap (escape escaping) ++ ['"']

/-- A scalar. -/
def scalar (escaping : Escaping) : Scalar → List Char
  | .null => "null".toList
  | .bool b => (if b then "true" else "false").toList
  | .int n => integer n
  | .float x => Binary64.jsonLayout.render x
  | .text s => string escaping s.toList
  | .date _ | .moment _ | .bytes _ => []

/-- A key, which is always a string. -/
def key (escaping : Escaping) : Scalar → List Char
  | .text s => string escaping s.toList
  | other => string escaping (scalar escaping other)

/-! ## Lists and mappings -/

/-- The blanks between the parts of a list or a mapping at a level of indentation: those on either
side of the parts, and those after the comma between two of them. -/
structure Layout where
  around : (level : Nat) → List Char
  after : (level : Nat) → List Char

/-- On a line. -/
def Layout.line : Layout := ⟨fun _ => [], fun _ => [' ']⟩

/-- A new line at a level of indentation. -/
def newLine (level : Nat) : List Char := '\n' :: List.replicate (2 * level) ' '

/-- On a page, each part on a line of its own. -/
def Layout.page : Layout := ⟨newLine, newLine⟩

/-- Parts between brackets, one level in. -/
def Layout.bracketed (layout : Layout) (level : Nat) (opening closing : Char)
    (parts : List (List Char)) : List Char :=
  if parts.isEmpty then [opening, closing]
  else opening :: layout.around (level + 1) ++
    separated (',' :: layout.after (level + 1)) parts ++ layout.around level ++ [closing]

mutual

/-- The text of a value at a level of indentation. -/
def write (escaping : Escaping) (layout : Layout) (level : Nat) : Value → List Char
  | .scalar s => scalar escaping s
  | .list items => layout.bracketed level '[' ']' (writeItems escaping layout (level + 1) items)
  | .map entries =>
    layout.bracketed level '\x7b' '\x7d' (writeEntries escaping layout (level + 1) entries)
  | .set _ => []

/-- The texts of the items of a list. -/
def writeItems (escaping : Escaping) (layout : Layout) (level : Nat) :
    List Value → List (List Char)
  | [] => []
  | item :: rest => write escaping layout level item :: writeItems escaping layout level rest

/-- The texts of the entries of a mapping. -/
def writeEntries (escaping : Escaping) (layout : Layout) (level : Nat) :
    List (Scalar × Value) → List (List Char)
  | [] => []
  | (k, value) :: rest =>
    (key escaping k ++ ':' :: ' ' :: write escaping layout level value) ::
      writeEntries escaping layout level rest

end

/-- A value on a line. -/
def line (escaping : Escaping) (value : Value) : List Char := write escaping .line 0 value

/-! ## Sorted keys -/

/-- The text by which a key is sorted. -/
def sortText : Scalar → String
  | .text s => s
  | other => String.ofList (scalar .controls other)

/-- Puts an entry before the first one whose key is not smaller than its own. -/
def insertEntry (entry : Scalar × Value) : Entries → Entries
  | [] => [entry]
  | other :: rest =>
    if sortText other.1 < sortText entry.1 then other :: insertEntry entry rest
    else entry :: other :: rest

mutual

/-- The value with the entries of every mapping in the order of their keys. -/
def sortKeys : Value → Value
  | .list items => .list (sortItems items)
  | .map entries => .map (sortEntries entries)
  | other => other

/-- The items with sorted keys. -/
def sortItems : List Value → List Value
  | [] => []
  | item :: rest => sortKeys item :: sortItems rest

/-- The entries in the order of their keys, with sorted keys inside. -/
def sortEntries : List (Scalar × Value) → List (Scalar × Value)
  | [] => []
  | (k, value) :: rest => insertEntry (k, sortKeys value) (sortEntries rest)

end

/-! ## What has no text -/

/-- Why a value has no text. -/
inductive Fault
  /-- There is no form for values of this type. -/
  | noForm (typeName : String)
  /-- Scalars of this type are no keys. -/
  | badKey (typeName : String)
  /-- An integer has too many digits. -/
  | tooLong
  deriving DecidableEq, Repr

/-- The text of a fault. -/
def Fault.message : Fault → String
  | noForm typeName => s!"Object of type {typeName} is not JSON serializable"
  | badKey typeName => s!"keys must be str, int, float, bool or None, not {typeName}"
  | tooLong => longMessage

/-- What is wrong with a scalar. One without a form has the fault that is given for its type. -/
def scalarFault? (noForm : String → Fault) (s : Scalar) : Option Fault :=
  match s with
  | .int n => if isLong n then some .tooLong else none
  | .date _ | .moment _ | .bytes _ => some (noForm s.typeName)
  | .null | .bool _ | .float _ | .text _ => none

mutual

/-- What is met first in writing a value and has no text. -/
def fault? : Value → Option Fault
  | .scalar s => scalarFault? .noForm s
  | .list items => itemsFault? items
  | .map entries => entriesFault? entries
  | .set members => some (.noForm (Value.set members).typeName)

/-- What is met first in the items of a list. -/
def itemsFault? : List Value → Option Fault
  | [] => none
  | item :: rest => (fault? item).or (itemsFault? rest)

/-- What is met first in the entries of a mapping, the key of each before its value. -/
def entriesFault? : List (Scalar × Value) → Option Fault
  | [] => none
  | (k, value) :: rest =>
    (scalarFault? .badKey k).or ((fault? value).or (entriesFault? rest))

end

/-- A text that is only given for a value without a fault. -/
def checked (value : Value) (text : List Char) : Except Fault String :=
  match fault? value with
  | some fault => .error fault
  | none => .ok (String.ofList text)

/-! ## Whole texts -/

/-- The text of a document file: sorted keys on a page, with a line end. -/
def document? (value : Value) : Except Fault String :=
  checked (sortKeys value) (write .controls .page 0 (sortKeys value) ++ ['\n'])

/-- The text of a record: on a line, in the order of its entries. -/
def record? (value : Value) : Except Fault String := checked value (line .controls value)

end Sequencer.Json

import Sequencer.Calendar.Iso
import Sequencer.Log.Template

/-!
# Log records

A record is a message of a level with fields and perhaps an exception. It is written as one line
of JSON whose entries are always the same and in the same order, with null for a field that the
record does not have; an exception is one more entry at the end.
-/

namespace Sequencer.Log

open Text

/-- How urgent a record is, and how urgent it must be to be taken. -/
inductive Level
  /-- No level: a logger of this level takes what the logger above it takes. -/
  | unset
  | debug
  | info
  | warning
  | error
  | critical
  deriving DecidableEq, Repr

namespace Level

/-- The rank of a level. -/
def rank : Level → Nat
  | unset => 0
  | debug => 10
  | info => 20
  | warning => 30
  | error => 40
  | critical => 50

/-- The level of a name. -/
def ofName? : String → Option Level
  | "NOTSET" => some unset
  | "DEBUG" => some debug
  | "INFO" => some info
  | "WARN" | "WARNING" => some warning
  | "ERROR" => some error
  | "CRITICAL" | "FATAL" => some critical
  | _ => none

/-- Whether a logger of a level takes records of another. -/
def takes (threshold level : Level) : Bool := threshold.rank ≤ level.rank

end Level

/-- A record. -/
structure Record where
  level : Level
  message : String
  fields : List (String × Value)
  exception : Option String

/-- The template of a record: the text of its field `msg` if it has one. -/
def templateOf (template : String) (fields : List (String × Value)) :
    Except TemplateFault String :=
  match fields.lookup "msg" with
  | none => .ok template
  | some v => (textOf plainText v).map String.ofList

/-- The record of a template with arguments. A field `msg` takes the place of the template. -/
def Record.ofTemplate (level : Level) (template : String) (arguments : List Value)
    (fields : List (String × Value)) (exception : Option String) :
    Except TemplateFault Record := do
  let template ← templateOf template fields
  let message ← formatMessage template arguments
  return { level, message, fields, exception }

/-- The fields of a record that are written, in order. -/
def writtenFields : List String :=
  ["run_id", "event", "status", "attempt", "count", "threads", "duration_ms", "error_code"]

/-- The value of a field, null if the record does not have it. -/
def Record.field (r : Record) (name : String) : Value := (r.fields.lookup name).getD .null

/-- The entries of a record's line, given the moment of writing. -/
def Record.entries (r : Record) (now : Moment) : List (String × Value) :=
  [("timestamp", .text now.isoMilliseconds)]
    ++ writtenFields.map (fun name => (name, r.field name))
    ++ [("message", .text r.message)]
    ++ r.exception.toList.map fun text => ("exception", .text text)

/-- The line of a record, given the moment of writing, if all that is written has a text. -/
def Record.line? (r : Record) (now : Moment) : Except Json.Fault String :=
  Json.record? (Value.ofFields (r.entries now))

/-- The text of an exception of a kind with a message. -/
def exceptionText (kind message : String) : String :=
  if message = "" then kind else s!"{kind}: {message}"

end Sequencer.Log

import Sequencer.Config.Settings

/-!
# The schema of a configuration

A configuration is a mapping with the sections `generator` and `retry`, both mappings.
`Settings.ofValue` checks them in a fixed order and reports the first fault: the sections, then
all of `generator`, then all of `retry`; in a section first the keys that are missing, then those
that are not known, unless these are allowed, then the values one by one.
-/

namespace Sequencer

/-- Why a value is no configuration. -/
inductive ConfigFault
  /-- Not a mapping. -/
  | notMapping (context typeName : String)
  /-- Keys that must be there are not. -/
  | missingKeys (context : String) (keys : List String)
  /-- Keys that are there must not be. -/
  | unknownKeys (context : String) (keys : List String)
  /-- Not an integer. -/
  | notInteger (context : String)
  /-- Not a number. -/
  | notNumber (context : String)
  /-- An integer below the least one allowed. -/
  | belowInteger (context : String) (minimum : Int)
  /-- A number below the least one allowed. -/
  | belowNumber (context : String) (minimum : Binary64)
  /-- None of the names allowed. -/
  | notOneOf (context : String) (names : List String)
  /-- A seed for a random source that takes none. -/
  | straySeed
  /-- There is no configuration file. -/
  | missingFile (path : String)
  deriving DecidableEq, Repr

/-- Names with commas between them. -/
def listed (names : List String) : String := String.intercalate ", " names

/-- The text of a fault. -/
def ConfigFault.message : ConfigFault → String
  | notMapping context typeName => s!"{context} must be a mapping, got {typeName}"
  | missingKeys context keys => s!"Missing keys in {context}: {listed keys}"
  | unknownKeys context keys => s!"Unknown keys in {context}: {listed keys}"
  | notInteger context => s!"{context} must be an integer"
  | notNumber context => s!"{context} must be a number"
  | belowInteger context minimum => s!"{context} must be >= {minimum}"
  | belowNumber context minimum => s!"{context} must be >= {minimum.text}"
  | notOneOf context names => s!"{context} must be one of {listed names}"
  | straySeed => "generator.seed is only valid with random_source: seeded"
  | missingFile path => s!"Missing config file: {path}"

/-- Why checking a value did not come to an end or found it wanting. -/
inductive ConfigFailure
  /-- The value breaks a rule. -/
  | fault (fault : ConfigFault)
  /-- Among the unknown keys is one that is no text, so that they cannot be named. -/
  | unnamedKeys
  /-- An integer that is to be a double is too large for one. -/
  | tooLarge
  deriving DecidableEq, Repr

/-- The text of a failure, if it has one. -/
def ConfigFailure.message? : ConfigFailure → Option String
  | fault reason => some reason.message
  | unnamedKeys => none
  | tooLarge => some "int too large to convert to float"

/-- A rule of the schema. -/
abbrev Checked (α : Type) := Except ConfigFailure α

namespace Schema

/-- Refuses a value. -/
def refuse {α : Type} (fault : ConfigFault) : Checked α := .error (.fault fault)

/-- Texts in the order of their code points. -/
def sortTexts (texts : List String) : List String :=
  texts.mergeSort fun a b => ! (b < a : Bool)

/-- The entries of a mapping. -/
def mapping (context : String) : Value → Checked Entries
  | .map entries => .ok entries
  | other => refuse (.notMapping context other.typeName)

/-- Checks that keys are there. -/
def requireKeys (context : String) (required : List String) (entries : Entries) :
    Checked Unit :=
  let missing := required.filter fun key => ! Entries.hasKey (.text key) entries
  if missing = [] then .ok () else refuse (.missingKeys context (sortTexts missing))

/-- The text that a key is. -/
def keyText? : Scalar → Option String
  | .text s => some s
  | _ => none

/-- Whether a key is one of these texts. -/
def isKnown (known : List String) (key : Scalar) : Bool :=
  match keyText? key with
  | some s => known.contains s
  | none => false

/-- Checks that there are no other keys, unless they are allowed. -/
def forbidOthers (context : String) (known : List String) (lenient : Bool)
    (entries : Entries) : Checked Unit :=
  let unknown := (entries.map (·.1)).filter fun key => ! isKnown known key
  if lenient ∨ unknown = [] then .ok ()
  else
    match unknown.mapM keyText? with
    | some texts => refuse (.unknownKeys context (sortTexts texts))
    | none => .error .unnamedKeys

/-- The value of a key that is there. -/
def entry (key : String) (entries : Entries) : Value :=
  (Entries.get? (.text key) entries).getD .null

/-- An integer that is not too small. -/
def integer (context : String) (minimum : Int) : Value → Checked Int
  | .int n => if n < minimum then refuse (.belowInteger context minimum) else .ok n
  | _ => refuse (.notInteger context)

/-- The number that a value is. -/
def number? : Value → Option Number
  | .int n => some (.int n)
  | .float x => some (.float x)
  | _ => none

/-- A number that is not less than a double, as a double. -/
def number (context : String) (minimum : Binary64) (value : Value) : Checked Binary64 :=
  match number? value with
  | none => refuse (.notNumber context)
  | some n =>
    if n.less (.float minimum) then refuse (.belowNumber context minimum)
    else
      match n.toBinary64? with
      | some x => .ok x
      | none => .error .tooLarge

/-- One of some names. -/
def name (context : String) (names : List String) : Value → Checked String
  | .text s => if s ∈ names then .ok s else refuse (.notOneOf context names)
  | _ => refuse (.notOneOf context names)

/-- A seed: absent, null, or an integer of at least zero for a source that takes one. -/
def seed (randomSource : String) : Option Value → Checked (Option Int)
  | none | some .null => .ok none
  | some value => do
    let n ← integer "generator.seed" 0 value
    if randomSource ≠ seededName then refuse .straySeed
    return some n

/-- The keys of a configuration. -/
def sectionKeys : List String := ["generator", "retry"]

/-- The keys that the section `generator` must have. -/
def generatorKeys : List String := ["max_per_msec_size", "clock", "random_source"]

/-- The keys that the section `retry` must have. -/
def retryKeys : List String := ["max_attempts", "initial_wait", "max_wait"]

/-- The entries of a section with the right keys. -/
def keyed (context : String) (required optional : List String) (lenient : Bool)
    (value : Value) : Checked Entries := do
  let entries ← mapping context value
  requireKeys context required entries
  forbidOthers context (required ++ optional) lenient entries
  return entries

/-- Checks the section `generator`. -/
def generator (lenient : Bool) (value : Value) :
    Checked (Int × String × String × Option Int) := do
  let entries ← keyed "generator" generatorKeys ["seed"] lenient value
  let ceiling ← integer "generator.max_per_msec_size" 1 (entry "max_per_msec_size" entries)
  let clock ← name "generator.clock" clockNames (entry "clock" entries)
  let randomSource ←
    name "generator.random_source" randomSourceNames (entry "random_source" entries)
  let seed ← seed randomSource (Entries.get? (.text "seed") entries)
  return (ceiling, clock, randomSource, seed)

/-- Checks the section `retry`. -/
def retry (lenient : Bool) (value : Value) : Checked RetryPolicy := do
  let entries ← keyed "retry" retryKeys [] lenient value
  let maxAttempts ← integer "retry.max_attempts" 1 (entry "max_attempts" entries)
  let initialWait ← number "retry.initial_wait" .zero (entry "initial_wait" entries)
  let maxWait ← number "retry.max_wait" initialWait (entry "max_wait" entries)
  return ⟨maxAttempts, .float initialWait, .float maxWait⟩

end Schema

/-- The settings that a configuration gives, with unknown keys allowed or not. -/
def Settings.ofValue (lenient : Bool) (value : Value) : Checked Settings := do
  let entries ← Schema.keyed "generator config" Schema.sectionKeys [] lenient value
  let (ceiling, clock, randomSource, seed) ←
    Schema.generator lenient (Schema.entry "generator" entries)
  let retry ← Schema.retry lenient (Schema.entry "retry" entries)
  return { ceiling, clock, randomSource, seed, retry }

end Sequencer

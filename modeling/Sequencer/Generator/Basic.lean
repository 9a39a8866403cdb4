import Sequencer.Counter
import Sequencer.Failure
import Sequencer.Generator.Source

/-!
# Generating an identifier

A generator is a counter with a clock and a random source. One generation reads the clock, takes
the counter's value, or zero if that is above the ceiling, draws a suffix, puts the three
together and checks the result; only then is the counter set. A generation that fails leaves the
counter as it was, and a clock that fails leaves the random source unasked.
-/

namespace Sequencer

open Text

/-- Why the clock gave no stamp. -/
inductive ClockFault
  /-- The clock failed. -/
  | raised (message : String)
  /-- The clock answered something that is no moment. -/
  | notMoment (typeName : String)
  /-- The moment has no stamp. -/
  | noStamp (fault : StampFault)
  deriving DecidableEq, Repr

/-- The text of a fault. -/
def ClockFault.message : ClockFault → String
  | raised message => message
  | notMoment typeName =>
    -- A date can be formatted, but has no fraction of a second.
    if typeName = "date" then "'datetime.date' object has no attribute 'microsecond'"
    else s!"'{typeName}' object has no attribute 'strftime'"
  | noStamp fault => fault.message

/-- Why a generation failed. -/
inductive GenerationFault
  /-- The clock gave no stamp. -/
  | clock (fault : ClockFault)
  /-- The random source failed. -/
  | randomRaised (message : String)
  /-- The random source gave no suffix. -/
  | randomOutOfRange (answer : Value)
  /-- Stamp, segment and suffix do not make a well-formed identifier. -/
  | malformed (identifier : String)

/-- The text of a fault. -/
def GenerationFault.message : GenerationFault → String
  | clock fault => s!"Unable to format clock reading: {fault.message}"
  | randomRaised message => s!"Random source unavailable: {message}"
  | randomOutOfRange answer =>
    s!"Random source returned out-of-range value: {answer.display}"
  | malformed identifier => s!"Composed identifier is malformed: {quoted identifier}"

/-- The kind of a fault. -/
def GenerationFault.kind : GenerationFault → FailureKind
  | clock _ => .clockFormat
  | randomRaised _ | randomOutOfRange _ => .randomSource
  | malformed _ => .contract

/-- Whether a generation that failed so may be tried again. -/
def GenerationFault.isTransient (fault : GenerationFault) : Bool :=
  fault.kind.lineage.contains .generation

/-- The clock or the random source is to blame for a failed generation. -/
inductive GenerationFault.OfSource : GenerationFault → Prop
  | clock (fault : ClockFault) : OfSource (.clock fault)
  | randomRaised (message : String) : OfSource (.randomRaised message)
  | randomOutOfRange (answer : Value) : OfSource (.randomOutOfRange answer)

/-- Just the failures of the clock and the random source may be tried again. -/
theorem GenerationFault.isTransient_iff {fault : GenerationFault} :
    fault.isTransient = true ↔ fault.OfSource := by
  cases fault with
  | clock fault => exact iff_of_true rfl (.clock fault)
  | randomRaised message => exact iff_of_true rfl (.randomRaised message)
  | randomOutOfRange answer => exact iff_of_true rfl (.randomOutOfRange answer)
  | malformed identifier => exact iff_of_false Bool.false_ne_true nofun

/-- The stamp that a clock's answer gives. -/
def ClockAnswer.stamp : ClockAnswer → Except ClockFault (List Char)
  | reading m => m.stamp?.mapError .noStamp
  | other v _ => .error (.notMoment v.typeName)
  | raised message => .error (.raised message)

/-- The suffix that a random source's answer gives: an integer in the range of suffixes. -/
def DrawAnswer.suffix : DrawAnswer → Except GenerationFault Nat
  | value (.int n) =>
    if suffixMin ≤ n ∧ n ≤ suffixMax then .ok n.toNat else .error (.randomOutOfRange (.int n))
  | value v => .error (.randomOutOfRange v)
  | raised message => .error (.randomRaised message)

/-- A counter with its sources. -/
structure Generator where
  counter : Counter
  sources : Sources

/-- What a generation reports besides its result. -/
inductive Notice
  /-- The generation failed. -/
  | failed (fault : GenerationFault)
  /-- The counter started again from zero. -/
  | counterReset

/-- The value that the next identifier is made of. -/
def Counter.effective (c : Counter) : Int := if c.value > c.ceiling then 0 else c.value

/-- Whether the next identifier starts again from zero. -/
def Counter.wraps (c : Counter) : Bool := c.value > c.ceiling

/-- Stamp, counter segment and suffix, one after another. -/
def Counter.compose (c : Counter) (stamp : List Char) (suffix : Nat) : String :=
  String.ofList (stamp ++ Identifier.counterSegment c.effective c.ceiling ++ natural suffix)

/-- The identifier of a stamp and a suffix, and the counter after it. -/
def Counter.commit (c : Counter) (stamp : List Char) (suffix : Nat) :
    Except GenerationFault (String × Counter) :=
  if Identifier.wellFormed c.ceiling (c.compose stamp suffix) then
    .ok (c.compose stamp suffix, { c with value := c.effective + 1 })
  else .error (.malformed (c.compose stamp suffix))

/-- The result of a generation before anything is reported, and the generator after it. -/
def Generator.attempt (g : Generator) : Except GenerationFault String × Generator :=
  let (reading, sources) := g.sources.readClock
  match reading.stamp with
  | .error fault => (.error (.clock fault), { g with sources })
  | .ok stamp =>
    let (answer, sources) := sources.draw
    match answer.suffix with
    -- The sources have moved on; the counter has not.
    | .error fault => (.error fault, { g with sources })
    | .ok suffix =>
      match g.counter.commit stamp suffix with
      | .error fault => (.error fault, { g with sources })
      | .ok (identifier, counter) => (.ok identifier, { counter, sources })

/-- What is reported of a generation from this counter with this result. -/
def Counter.notices (c : Counter) : Except GenerationFault String → List Notice
  | .error fault => [.failed fault]
  | .ok _ => if c.wraps then [.counterReset] else []

/-- What a call on a generator gives: its result, the generator after it, and what it reported
in order. -/
structure Outcome (ε α : Type) where
  result : Except ε α
  generator : Generator
  notices : List Notice

/-- Generates an identifier. -/
def Generator.generate (g : Generator) : Outcome GenerationFault String :=
  let (result, generator) := g.attempt
  { result, generator, notices := g.counter.notices result }

end Sequencer

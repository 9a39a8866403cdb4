import Sequencer.Generator.Batch
import Sequencer.Generator.Summary
import Sequencer.Identifier.Parts

/-!
# Sessions

A session is a generator and the identifiers that it has delivered so far. `Session.step` makes
one call of the public operations on it; besides these, a call may set value and ceiling of the
counter directly, without any check.
-/

namespace Sequencer

/-- A generator and what it delivered, in order. -/
structure Session where
  generator : Generator
  made : List String

namespace Session

/-- A call. -/
inductive Call
  | generate
  /-- So many generations, up to the first that fails. -/
  | burst (times : Nat)
  | retry (policy : RetryPolicy)
  | batch (threads perThread : Int) (policy : RetryPolicy)
  /-- Sums up everything delivered so far. -/
  | summary
  /-- Takes the last delivered identifier apart. -/
  | parseLast
  | current
  | force (value : Int)
  | setValue (value : Int)
  | setCeiling (ceiling : Int)
  /-- The ceiling and the length of identifiers. -/
  | length

/-- What a call answers. -/
inductive Answer
  | identifier (text : String)
  | burst (identifiers : List String)
  | batch (identifiers : List String)
  | summary (summary : BatchSummary)
  | parts (parts : Identifier.Parts)
  | current (value : Int)
  | length (ceiling : Int) (length : Nat)
  | done

/-- Why a call failed. -/
inductive Fault
  | generation (fault : GenerationFault)
  /-- A pause between two attempts failed. -/
  | pause (fault : PauseFault)
  | batch (fault : Batch.Fault)
  | counter (fault : Counter.Fault)
  | identifier (fault : Identifier.Fault)
  | summary (fault : SummaryFault)
  /-- No identifier was delivered yet. -/
  | nothingMade

/-- What a call did: its result, how many identifiers it delivered, what it reported and how
long it waited. -/
structure Report where
  result : Except Fault Answer
  delivered : Nat
  notices : List Notice
  waits : List Number

/-- The report of a call that touches neither clock nor random source. -/
def Report.quiet (result : Except Fault Answer) : Report := ⟨result, 0, [], []⟩

/-- So many generations, up to the first that fails: the identifiers before it and the fault. -/
def burst (g : Generator) : Nat → List String × Option GenerationFault × Generator × List Notice
  | 0 => ([], none, g, [])
  | times + 1 =>
    let outcome := g.generate
    match outcome.result with
    | .error fault => ([], some fault, outcome.generator, outcome.notices)
    | .ok identifier =>
      let (identifiers, fault, generator, notices) := burst outcome.generator times
      (identifier :: identifiers, fault, generator, outcome.notices ++ notices)

/-- The session with another counter. -/
def withCounter (s : Session) (counter : Counter) : Session :=
  { s with generator := { s.generator with counter } }

/-- A call that may deliver identifiers and wait. -/
def deliver {ε α : Type} (s : Session) (run : Waited ε α) (identifiers : α → List String)
    (answer : α → Answer) (fault : ε → Fault) : Report × Session :=
  match run.result with
  | .ok a =>
    (⟨.ok (answer a), (identifiers a).length, run.notices, run.waits⟩,
      ⟨run.generator, s.made ++ identifiers a⟩)
  | .error e => (⟨.error (fault e), 0, run.notices, run.waits⟩, ⟨run.generator, s.made⟩)

/-- Why a call that tries again failed. -/
def Fault.ofRetry : RetryFault → Fault
  | .attempt fault => generation fault
  | .pause fault => pause fault

/-- Makes a call. The random addition to each wait is the given fraction of its bound, and every
wait is slept. -/
def step (fraction : Binary64) (s : Session) : Call → Report × Session
  | .generate =>
    deliver s { s.generator.generate with waits := [] } (fun text => [text]) .identifier
      .generation
  | .retry policy =>
    deliver s (s.generator.retry policy (fun _ => fraction) fun _ => true).settled
      (fun text => [text]) .identifier .ofRetry
  | .batch threads perThread policy =>
    deliver s (s.generator.generateBatch threads perThread policy fraction) id .batch .batch
  | .burst times =>
    let (identifiers, fault, generator, notices) := burst s.generator times
    let result := match fault with
      | none => .ok (.burst identifiers)
      | some fault => .error (.generation fault)
    (⟨result, identifiers.length, notices, []⟩, ⟨generator, s.made ++ identifiers⟩)
  | .summary =>
    let result :=
      match summarise s.made 1 s.made.length s.generator.counter.ceiling (.ok 0) with
      | .ok summary => .ok (.summary summary)
      | .error fault => .error (.summary fault)
    (.quiet result, s)
  | .parseLast =>
    let result := match s.made.getLast? with
      | none => .error .nothingMade
      | some text =>
        match Identifier.parse s.generator.counter.ceiling text with
        | .ok parts => .ok (.parts parts)
        | .error fault => .error (.identifier fault)
    (.quiet result, s)
  | .current => (.quiet (.ok (.current s.generator.counter.value)), s)
  | .force value =>
    match s.generator.counter.force value with
    | .ok counter => (.quiet (.ok .done), s.withCounter counter)
    | .error fault => (.quiet (.error (.counter fault)), s)
  | .setValue value =>
    (.quiet (.ok .done), s.withCounter { s.generator.counter with value })
  | .setCeiling ceiling =>
    (.quiet (.ok .done), s.withCounter { s.generator.counter with ceiling })
  | .length =>
    let ceiling := s.generator.counter.ceiling
    (.quiet (.ok (.length ceiling (Identifier.length ceiling))), s)

/-- Makes calls one after another. -/
def run (fraction : Binary64) (s : Session) : List Call → List (Report × Session)
  | [] => []
  | call :: rest =>
    let first := s.step fraction call
    first :: first.2.run fraction rest

end Session

end Sequencer

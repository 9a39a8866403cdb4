import Sequencer.Generator.Session

/-!
# Threads that share a generator

Threads that call one generator at the same time, in the steps that can come between each other.
A generation reads the ceiling and a value to be set is checked before the lock is taken; clock,
value and random source are read, and the value is written, by the thread that holds the lock. Any
way out of the locked part, also that of a failure, gives the lock back with the report of the
call.

Clock and random source answer in the order in which they are asked, whoever asks, so scripts may
as well stand for clocks and random sources that each thread has of its own.

A schedule is the list of the threads that make a step, one after another. A step of a thread that
waits for a lock that is held, or that has ended, changes nothing. `System.order` tells in which
order the calls took the lock; no step reads it.
-/

namespace Sequencer

namespace Shared

open Session (Report)

/-- A call that a thread makes. -/
inductive Call
  | generate
  | force (value : Int)
  | current
  deriving DecidableEq, Repr

/-- The call on a session. -/
def Call.toSession : Call → Session.Call
  | generate => .generate
  | force value => .force value
  | current => .current

/-- A call whose part before the lock is done. -/
inductive Request
  /-- A generation that read this ceiling. -/
  | generate (ceiling : Int)
  /-- A value that was found in range. -/
  | force (value : Int)
  | current

/-- The call of a request. -/
def Request.call : Request → Call
  | generate _ => .generate
  | force value => .force value
  | current => .current

/-- What a call does before it takes the lock: it goes on with a request or ends with a report. -/
def Call.prepare (counter : Counter) : Call → Except Report Request
  | generate => .ok (.generate counter.ceiling)
  | force value =>
    match counter.force value with
    | .ok _ => .ok (.force value)
    | .error fault => .error (.quiet (.error (.counter fault)))
  | current => .ok .current

/-- Where the thread that holds the lock is in its call. -/
inductive Inside
  /-- About to ask the clock. -/
  | entered (ceiling : Int)
  /-- About to read the value. -/
  | stamped (ceiling : Int) (stamp : List Char)
  /-- About to ask the random source, with the ceiling and the value that were read. -/
  | counted (seen : Counter) (stamp : List Char)
  /-- About to put the identifier together. -/
  | drawn (seen : Counter) (stamp : List Char) (suffix : Nat)
  /-- About to write the value. -/
  | composed (seen : Counter) (identifier : String)
  /-- About to write a value that is set. -/
  | setting (value : Int)
  /-- About to read the value that is asked for. -/
  | looking
  /-- About to give the lock back. -/
  | leaving (report : Report)

/-- Where the locked part of a call begins. -/
def Request.enter : Request → Inside
  | generate ceiling => .entered ceiling
  | force value => .setting value
  | current => .looking

/-- The report of a generation that failed. -/
def failed (fault : GenerationFault) : Report :=
  ⟨.error (.generation fault), 0, [.failed fault], []⟩

/-- The report of a generation that succeeded with what it read of the counter. -/
def made (seen : Counter) (identifier : String) : Report :=
  ⟨.ok (.identifier identifier), 1, seen.notices (.ok identifier), []⟩

/-- One step of the thread that holds the lock: where it is then, and the generator. -/
def Inside.advance (g : Generator) : Inside → Inside × Generator
  | entered ceiling =>
    let (reading, sources) := g.sources.readClock
    match reading.stamp with
    | .error fault => (leaving (failed (.clock fault)), { g with sources })
    | .ok stamp => (stamped ceiling stamp, { g with sources })
  | stamped ceiling stamp => (counted ⟨ceiling, g.counter.value⟩ stamp, g)
  | counted seen stamp =>
    let (answer, sources) := g.sources.draw
    match answer.suffix with
    | .error fault => (leaving (failed fault), { g with sources })
    | .ok suffix => (drawn seen stamp suffix, { g with sources })
  | drawn seen stamp suffix =>
    let identifier := seen.compose stamp suffix
    if Identifier.wellFormed seen.ceiling identifier then (composed seen identifier, g)
    else (leaving (failed (.malformed identifier)), g)
  | composed seen identifier =>
    (leaving (made seen identifier),
      { g with counter := { g.counter with value := seen.effective + 1 } })
  | setting value =>
    (leaving (.quiet (.ok .done)), { g with counter := { g.counter with value } })
  | looking => (leaving (.quiet (.ok (.current g.counter.value))), g)
  | leaving report => (leaving report, g)

/-- Where a thread is in the first of its calls to do. -/
inductive Stage
  /-- It has not begun. -/
  | idle
  | waiting (request : Request)
  | inside (point : Inside)

/-- A thread: its calls to do, the one under way included, and the reports of those that ended. -/
structure Thread where
  todo : List Call
  stage : Stage
  reports : List Report

namespace Thread

/-- A thread that has done nothing yet. -/
def fresh (program : List Call) : Thread := ⟨program, .idle, []⟩

/-- The thread after its call ended. -/
def ended (th : Thread) (report : Report) : Thread :=
  ⟨th.todo.tail, .idle, th.reports ++ [report]⟩

/-- The thread after the part of its next call before the lock. -/
def begin (counter : Counter) (th : Thread) : Thread :=
  match th.todo with
  | [] => th
  | call :: _ =>
    match call.prepare counter with
    | .error report => th.ended report
    | .ok request => { th with stage := .waiting request }

end Thread

/-- A call in its place: the thread that makes it, how many calls of the thread are before it, and
what it calls. -/
structure Ticket where
  thread : Nat
  number : Nat
  call : Call
  deriving DecidableEq, Repr

/-- A generator shared by threads. -/
structure System where
  generator : Generator
  /-- The thread that holds the lock. -/
  holder : Option Nat
  threads : List Thread
  /-- The calls that took the lock so far, in this order. -/
  order : List Ticket

namespace System

/-- Threads that are about to begin. -/
def start (g : Generator) (programs : List (List Call)) : System :=
  ⟨g, none, programs.map .fresh, []⟩

/-- The system with another state of a thread. -/
def put (s : System) (i : Nat) (th : Thread) : System :=
  { s with threads := s.threads.set i th }

/-- A step of a thread. -/
def step (s : System) (i : Nat) : System :=
  match s.threads[i]? with
  | none => s
  | some th =>
    match th.stage with
    | .idle => s.put i (th.begin s.generator.counter)
    | .waiting request =>
      match s.holder with
      | some _ => s
      | none =>
        { s.put i { th with stage := .inside request.enter } with
          holder := some i
          order := s.order ++ [⟨i, th.reports.length, request.call⟩] }
    | .inside (.leaving report) => { s.put i (th.ended report) with holder := none }
    | .inside point =>
      let (next, generator) := point.advance s.generator
      { s.put i { th with stage := .inside next } with generator }

/-- The steps of a schedule, one after another. -/
def run (s : System) (schedule : List Nat) : System := schedule.foldl step s

/-- Whether every call of every thread has ended. -/
def Ended (s : System) : Prop := ∀ th ∈ s.threads, th.todo = []

/-- The report of a call that ended. -/
def report? (s : System) (t : Ticket) : Option Report :=
  s.threads[t.thread]?.bind (·.reports[t.number]?)

end System

end Shared

end Sequencer

import Sequencer.Generator.Session

/-!
# Batches under a schedule

How a batch runs when its workers take turns in any order. A turn is one attempt of one worker: it
holds the generator for the attempt and gives it back before it waits, so attempts of other
workers may come between two attempts at the same identifier. A schedule is the list of the
workers whose turn it is, one after another; a turn of a worker that has nothing left to do
changes nothing. The batch is over when no worker is busy, and gives what `Pool.result` says.
-/

namespace Sequencer

/-- A worker of a batch. -/
structure Worker where
  /-- What it made so far, in order. -/
  made : List String
  /-- How many attempts at the next identifier failed. -/
  failures : Nat
  /-- The fault it stopped at. -/
  stopped : Option GenerationFault

namespace Worker

/-- A worker that has done nothing yet. -/
def fresh : Worker := ⟨[], 0, none⟩

/-- Whether the worker has identifiers left to make and did not stop. -/
def isBusy (perThread : Nat) (w : Worker) : Bool :=
  w.stopped.isNone && w.made.length < perThread

/-- Whether the worker tries again after a fault. -/
def triesAgain (policy : RetryPolicy) (w : Worker) (fault : GenerationFault) : Bool :=
  fault.isTransient && w.failures + 1 < policy.attempts

/-- The worker after an attempt. -/
def after (policy : RetryPolicy) (w : Worker) : Except GenerationFault String → Worker
  | .ok identifier => { w with made := w.made ++ [identifier], failures := 0 }
  | .error fault =>
    if w.triesAgain policy fault then { w with failures := w.failures + 1 }
    else { w with stopped := some fault }

/-- The waits that an attempt leads to. -/
def waits (policy : RetryPolicy) (fraction : Binary64) (w : Worker) :
    Except GenerationFault String → List Number
  | .ok _ => []
  | .error fault =>
    if w.triesAgain policy fault then [policy.wait fraction (w.failures + 1)] else []

/-- What the workers of a batch that is over give: everything they made, in their order, or the
fault of the first that stopped. -/
def collect : List Worker → Except GenerationFault (List String)
  | [] => .ok []
  | w :: rest =>
    match w.stopped with
    | some fault => .error fault
    | none => (collect rest).map (w.made ++ ·)

end Worker

/-- A generator with the workers of a batch, and what was reported and waited so far. -/
structure Pool where
  generator : Generator
  workers : List Worker
  notices : List Notice
  waits : List Number

namespace Pool

/-- So many workers that are about to begin. -/
def start (g : Generator) (threads : Nat) : Pool := ⟨g, List.replicate threads .fresh, [], []⟩

/-- The turn of a worker: one attempt, if it is busy. -/
def turn (perThread : Nat) (policy : RetryPolicy) (fraction : Binary64) (p : Pool) (i : Nat) :
    Pool :=
  match p.workers[i]? with
  | none => p
  | some w =>
    if w.isBusy perThread then
      let outcome := p.generator.generate
      { generator := outcome.generator
        workers := p.workers.set i (w.after policy outcome.result)
        notices := p.notices ++ outcome.notices
        waits := p.waits ++ w.waits policy fraction outcome.result }
    else p

/-- The turns of a schedule, one after another. -/
def run (perThread : Nat) (policy : RetryPolicy) (fraction : Binary64) (p : Pool)
    (schedule : List Nat) : Pool :=
  schedule.foldl (turn perThread policy fraction) p

/-- What the batch gives, once no worker is busy. -/
def result (perThread : Nat) (p : Pool) : Option (Except GenerationFault (List String)) :=
  if p.workers.any (·.isBusy perThread) then none else some (Worker.collect p.workers)

end Pool

/-- Makes a batch whose workers take these turns. If the turns leave a worker busy, the workers
take the generator one after another instead. -/
def Generator.generateBatchIn (turns : List Nat) (g : Generator) (threads perThread : Int)
    (policy : RetryPolicy) (fraction : Binary64) : Waited Batch.Fault (List String) :=
  let pool := (Pool.start g threads.toNat).run perThread.toNat policy fraction turns
  if threads < 1 ∨ perThread < 1 then g.generateBatch threads perThread policy fraction
  else
    match pool.result perThread.toNat with
    | none => g.generateBatch threads perThread policy fraction
    | some result =>
      { result := result.mapError .generation
        generator := pool.generator
        notices := pool.notices
        waits := pool.waits }

/-- The identifiers that a batch which is over delivers: none if it failed. -/
def Pool.delivered (perThread : Nat) (p : Pool) : List String :=
  match p.result perThread with
  | some (.ok identifiers) => identifiers
  | _ => []

/-- A batch under a schedule on the generator of a session: what was reported, and the session
after it. -/
def Session.schedule (fraction : Binary64) (s : Session) (threads perThread : Nat)
    (policy : RetryPolicy) (turns : List Nat) : List Notice × Session :=
  let pool := (Pool.start s.generator threads).run perThread policy fraction turns
  (pool.notices, ⟨pool.generator, s.made ++ pool.delivered perThread⟩)

end Sequencer

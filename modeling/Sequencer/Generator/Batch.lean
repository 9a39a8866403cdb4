import Sequencer.Generator.Retry

/-!
# Batches

A batch makes a number of identifiers for each of a number of workers that share a generator.
Each worker generates one identifier after another and stops at the first that fails; the others
go on. The batch fails with the fault of the first worker that failed, in the order of the
workers, and delivers nothing then; else it delivers the workers' identifiers in that order. The
workers here take the generator one after another, which is one of the orders that are possible
when they run at the same time. The pauses of a batch are steady: one that failed would stop its
worker as any other failure does that is not tried again.
-/

namespace Sequencer

namespace Batch

/-- Why a batch failed. -/
inductive Fault
  /-- Fewer than one worker. -/
  | badThreads (threads : Int)
  /-- Fewer than one identifier for each worker. -/
  | badPerThread (perThread : Int)
  /-- A worker failed. -/
  | generation (fault : GenerationFault)

/-- The text of a fault. -/
def Fault.message : Fault → String
  | badThreads threads => s!"threads must be >= 1, got {threads}"
  | badPerThread perThread => s!"per_thread must be >= 1, got {perThread}"
  | generation fault => fault.message

/-- The kind of a fault. -/
def Fault.kind : Fault → FailureKind
  | badThreads _ | badPerThread _ => .config
  | generation fault => fault.kind

end Batch

/-- One worker's part: so many identifiers one after another. -/
def Generator.generateMany (policy : RetryPolicy) (fraction : Binary64) (g : Generator) :
    Nat → Waited GenerationFault (List String)
  | 0 => { result := .ok [], generator := g, notices := [], waits := [] }
  | count + 1 =>
    let first := g.generateWithRetry policy fraction
    match first.result with
    | .error fault => { first with result := .error fault }
    | .ok identifier =>
      let rest := first.generator.generateMany policy fraction count
      { rest with
        result := rest.result.map (identifier :: ·)
        notices := first.notices ++ rest.notices
        waits := first.waits ++ rest.waits }

/-- A worker that does not fail delivers as many identifiers as it was asked for. -/
theorem Generator.length_of_generateMany {policy : RetryPolicy} {fraction : Binary64}
    {g : Generator} {count : Nat} {identifiers : List String}
    (h : (g.generateMany policy fraction count).result = .ok identifiers) :
    identifiers.length = count := by
  induction count generalizing g identifiers with
  | zero => cases h; rfl
  | succ count ih =>
    rw [Generator.generateMany] at h
    dsimp only at h
    split at h
    · cases h
    · cases hr : ((g.generateWithRetry policy fraction).generator.generateMany policy fraction
          count).result with
      | error fault =>
        rw [hr] at h
        cases h
      | ok more =>
        rw [hr] at h
        cases h
        rw [List.length_cons, ih hr]

/-- The parts of so many workers, one after another. -/
def Generator.runWorkers (policy : RetryPolicy) (fraction : Binary64) (perThread : Nat)
    (g : Generator) : Nat → Waited GenerationFault (List String)
  | 0 => { result := .ok [], generator := g, notices := [], waits := [] }
  | workers + 1 =>
    let first := g.generateMany policy fraction perThread
    let rest := first.generator.runWorkers policy fraction perThread workers
    { rest with
      result := do
        let identifiers ← first.result
        return identifiers ++ (← rest.result)
      notices := first.notices ++ rest.notices
      waits := first.waits ++ rest.waits }

/-- Makes a batch. -/
def Generator.generateBatch (g : Generator) (threads perThread : Int) (policy : RetryPolicy)
    (fraction : Binary64) : Waited Batch.Fault (List String) :=
  if threads < 1 then
    { result := .error (.badThreads threads), generator := g, notices := [], waits := [] }
  else if perThread < 1 then
    { result := .error (.badPerThread perThread), generator := g, notices := [], waits := [] }
  else
    let run := g.runWorkers policy fraction perThread.toNat threads.toNat
    { run with result := run.result.mapError .generation }

end Sequencer

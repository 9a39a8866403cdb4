import Sequencer.Generator.Basic
import Sequencer.Number

/-!
# Trying again

A generation that fails because of the clock or the random source is tried again, up to a number
of attempts, and at least once. Between two attempts there is a wait that doubles from one to
the next, with a random addition, and is never longer than a limit. What the last attempt gives
is the result.

A pause may fail instead: there may be no random addition, and a wait may be too long to be slept.
The call then fails with that, whatever its attempts gave. `Pauses` is what a call finds outside;
`Generator.retry` draws its additions anew for each wait, and `Generator.generateWithRetry`, which
the workers of a batch call, has steady pauses that never fail.
-/

namespace Sequencer

/-- How often to try, the wait before the first further attempt, and the longest wait, which is
also the bound of the random addition. -/
structure RetryPolicy where
  maxAttempts : Int
  initialWait : Number
  maxWait : Number
  deriving DecidableEq, Repr

/-- The double nearest to one hundredth. -/
def oneHundredth : Binary64 := .ofRatio false 1 100

/-- Three attempts, a wait from zero up to a hundredth of a second. -/
def RetryPolicy.standard : RetryPolicy := ⟨3, .float .zero, .float oneHundredth⟩

/-- The number of attempts that a policy allows. -/
def RetryPolicy.attempts (policy : RetryPolicy) : Nat := max 1 policy.maxAttempts.toNat

/-- The random addition to a wait: a fraction of the longest wait, without end if that is too large
for a double. -/
def RetryPolicy.addition (policy : RetryPolicy) (fraction : Binary64) : Binary64 :=
  match policy.maxWait.toBinary64? with
  | some bound => bound.mul fraction
  | none => .infinite false

/-- The wait after so many failed attempts, in seconds. If it is too large for a double it is the
longest wait. -/
def RetryPolicy.wait (policy : RetryPolicy) (fraction : Binary64) (failures : Nat) : Number :=
  let doubled := do
    (← policy.initialWait.mul? (.int (Nat.pow 2 (failures - 1)))).add?
      (.float (policy.addition fraction))
  match doubled with
  | some wait => .atLeast (.int 0) (wait.atMost policy.maxWait)
  | none => .atLeast (.int 0) policy.maxWait

/-- An outcome together with the waits that led to it. -/
structure Waited (ε α : Type) extends Outcome ε α where
  waits : List Number

/-! ## Pauses -/

/-- Why a pause between two attempts fails. -/
inductive PauseFault
  /-- The bound of the random addition is too large for a double. -/
  | noAddition
  /-- The wait cannot be slept. -/
  | noSleep (wait : Number)
  deriving DecidableEq, Repr

/-- The text of a fault, unless it is that of the clock that sleeps. -/
def PauseFault.message? : PauseFault → Option String
  | noAddition => some "int too large to convert to float"
  | noSleep _ => none

/-- What a call that tries again finds when it pauses. -/
structure Pauses where
  /-- The wait after so many failed attempts. -/
  wait : Nat → Number
  /-- Why the pause after so many failed attempts fails, if it does. The wait is prepared even
  after the last attempt that is allowed, and slept only if there are more. -/
  fault? : Nat → (more : Bool) → Option PauseFault

/-- Pauses that never fail, with the same fraction of its bound added to every wait. -/
def Pauses.steady (policy : RetryPolicy) (fraction : Binary64) : Pauses where
  wait := policy.wait fraction
  fault? _ _ := none

/-- Pauses whose random additions are drawn anew for each wait, as these fractions of their bound,
where not every wait can be slept. -/
def Pauses.drawn (policy : RetryPolicy) (fractions : Nat → Binary64) (sleeps : Number → Bool) :
    Pauses where
  wait number := policy.wait (fractions number) number
  fault? number more :=
    if policy.maxWait.toBinary64? = none then some .noAddition
    else
      let wait := policy.wait (fractions number) number
      if more ∧ sleeps wait = false then some (.noSleep wait) else none

/-- Whether an attempt with this result is tried again if it may be. -/
def isRetried : Except GenerationFault String → Bool
  | .ok _ => false
  | .error fault => fault.isTransient

/-! ## Calls -/

/-- What a call that tries again comes to. -/
structure RetryOutcome extends Waited GenerationFault String where
  /-- The pause that failed after the last attempt, if one did. -/
  stuck : Option PauseFault

/-- Why a call that tries again fails. -/
inductive RetryFault
  /-- Its last attempt failed. -/
  | attempt (fault : GenerationFault)
  /-- A pause failed. -/
  | pause (fault : PauseFault)

/-- What the caller is given: the result of the last attempt, or the fault of a pause. -/
def RetryOutcome.settled (r : RetryOutcome) : Waited RetryFault String :=
  { r with
    result := match r.stuck with
      | some fault => .error (.pause fault)
      | none => r.result.mapError .attempt }

/-- An attempt that is the last one. -/
def RetryOutcome.ofLast (outcome : Outcome GenerationFault String) (stuck : Option PauseFault) :
    RetryOutcome :=
  { outcome with waits := [], stuck }

/-- Tries with so many further attempts left, after so many failures. -/
def Generator.retryFrom (pauses : Pauses) (g : Generator) (failures : Nat) :
    (left : Nat) → RetryOutcome
  | 0 =>
    .ofLast g.generate
      (if isRetried g.generate.result then pauses.fault? (failures + 1) false else none)
  | left + 1 =>
    if isRetried g.generate.result then
      match pauses.fault? (failures + 1) true with
      | some fault => .ofLast g.generate (some fault)
      | none =>
        let later := g.generate.generator.retryFrom pauses (failures + 1) left
        { later with
          notices := g.generate.notices ++ later.notices
          waits := pauses.wait (failures + 1) :: later.waits }
    else .ofLast g.generate none

/-- Generates an identifier, trying again under a policy. -/
def Generator.retry (g : Generator) (policy : RetryPolicy) (fractions : Nat → Binary64)
    (sleeps : Number → Bool) : RetryOutcome :=
  g.retryFrom (.drawn policy fractions sleeps) 0 (policy.attempts - 1)

/-- Tries with so many further attempts left, after so many failures, with steady pauses. -/
def Generator.retrySteadily (policy : RetryPolicy) (fraction : Binary64) (g : Generator)
    (failures left : Nat) : Waited GenerationFault String :=
  (g.retryFrom (.steady policy fraction) failures left).toWaited

/-- Generates an identifier, trying again under a policy with steady pauses. -/
def Generator.generateWithRetry (g : Generator) (policy : RetryPolicy) (fraction : Binary64) :
    Waited GenerationFault String :=
  g.retrySteadily policy fraction 0 (policy.attempts - 1)

end Sequencer

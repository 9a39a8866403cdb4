import Sequencer.Calendar.Moment
import Sequencer.Generator.Retry

/-!
# Settings

What a configuration sets: the ceiling of the counter, the clock, the random source and how to
try again. `Generator.build` makes a generator of settings; it checks the ceiling and the name
of the clock itself, because settings may also be put together without a configuration.
-/

namespace Sequencer

/-- The settings of a generator. -/
structure Settings where
  ceiling : Int
  clock : String
  randomSource : String
  seed : Option Int
  retry : RetryPolicy
  deriving DecidableEq, Repr

/-- The settings where nothing is configured. -/
def Settings.standard : Settings := ⟨defaultCeiling, "local", "system", none, .standard⟩

/-- The names of the clocks. -/
def clockNames : List String := ["local", "utc"]

/-- The name of the random source that is given a seed. -/
def seededName : String := "seeded"

/-- The names of the random sources. -/
def randomSourceNames : List String := ["system", seededName]

/-- Why settings make no generator. -/
inductive BuildFault
  /-- The counter cannot be made. -/
  | counter (fault : Counter.Fault)
  /-- No clock has this name. -/
  | unknownClock (name : String)

/-- The random source of settings: that of the seed, if there is one and it is asked for, and
else the one of the system. -/
def Settings.source (s : Settings) (system : RandomSource) : RandomSource :=
  match s.seed with
  | some seed => if s.randomSource = seededName then .seeded (.ofSeed seed) else system
  | none => system

/-- The generator of settings, with the clock of each mode and the random source of the system
at hand. -/
def Generator.build (settings : Settings) (clock : ClockMode → Script ClockAnswer)
    (system : RandomSource) : Except BuildFault Generator :=
  match Counter.new (.int settings.ceiling) 0 with
  | .error fault => .error (.counter fault)
  | .ok counter =>
    match ClockMode.ofName? settings.clock with
    | none => .error (.unknownClock settings.clock)
    | some mode => .ok ⟨counter, .new (clock mode) (settings.source system)⟩

end Sequencer

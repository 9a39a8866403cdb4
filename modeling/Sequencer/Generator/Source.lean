import Sequencer.Identifier.Layout
import Sequencer.Random.Twister
import Sequencer.Value

/-!
# Clocks and random sources

What a generator asks: a clock for its reading and a random source for a suffix. Either may fail
or answer something useless. The answers that a source outside the library gives one after
another are a `Script`, whose last answer repeats; a seeded random source answers by itself.
`Sources` holds both together with the number of times each was asked.
-/

namespace Sequencer

/-- Answers given one after another, the last one for ever. -/
structure Script (α : Type) where
  first : α
  rest : List α

/-- The next answer, and the script from there on. -/
def Script.next {α : Type} (s : Script α) : α × Script α :=
  match s.rest with
  | [] => (s.first, s)
  | a :: rest => (s.first, ⟨a, rest⟩)

/-- The script of a list, if it has an answer. -/
def Script.ofList? {α : Type} : List α → Option (Script α)
  | [] => none
  | a :: rest => some ⟨a, rest⟩

/-- What a clock answers. -/
inductive ClockAnswer
  /-- A moment. -/
  | reading (m : Moment)
  /-- Something that is no moment. -/
  | other (v : Value) (h : v.moment? = none)
  /-- The clock fails. -/
  | raised (message : String)

/-- The answer of a clock that gives a value. -/
def ClockAnswer.ofValue (v : Value) : ClockAnswer :=
  match h : v.moment? with
  | some m => .reading m
  | none => .other v h

/-- What a random source answers. -/
inductive DrawAnswer
  /-- A value, which need not be a suffix. -/
  | value (v : Value)
  /-- The source fails. -/
  | raised (message : String)

/-- A random source. -/
inductive RandomSource
  /-- Answers from outside. -/
  | scripted (answers : Script DrawAnswer)
  /-- Suffixes from a seed. -/
  | seeded (state : Random.Twister)

/-- The most words drawn for one suffix. -/
def drawLimit : Nat := 1000

/-- Asks a random source for a suffix. -/
def RandomSource.next : RandomSource → DrawAnswer × RandomSource
  | scripted answers => (answers.next.1, scripted answers.next.2)
  | seeded state =>
    let (r, state) := state.below (suffixMax - suffixMin + 1) drawLimit
    (.value (.int (suffixMin + r : Nat)), seeded state)

/-- A clock and a random source, and how often each was asked. -/
structure Sources where
  clock : Script ClockAnswer
  random : RandomSource
  clockCalls : Nat
  drawCalls : Nat

/-- Sources that were not asked yet. -/
def Sources.new (clock : Script ClockAnswer) (random : RandomSource) : Sources :=
  ⟨clock, random, 0, 0⟩

/-- Asks the clock. -/
def Sources.readClock (s : Sources) : ClockAnswer × Sources :=
  (s.clock.next.1, { s with clock := s.clock.next.2, clockCalls := s.clockCalls + 1 })

/-- Asks the random source. -/
def Sources.draw (s : Sources) : DrawAnswer × Sources :=
  (s.random.next.1, { s with random := s.random.next.2, drawCalls := s.drawCalls + 1 })

end Sequencer

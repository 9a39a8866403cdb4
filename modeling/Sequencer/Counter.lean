import Sequencer.Value

/-!
# Counters

A counter holds a ceiling and a value. The value runs from zero to one above the ceiling: it
rests there until the next identifier is made, which starts again from zero. `Counter.new`
checks the ceiling and the start, `Counter.force` a value to be set; both keep `Sound`.
-/

namespace Sequencer

/-- The state shared by all who draw from one generator. -/
structure Counter where
  ceiling : Int
  value : Int
  deriving DecidableEq, Repr

namespace Counter

/-- Why a counter cannot be made or set. -/
inductive Fault
  /-- The ceiling is not an integer of at least one. -/
  | badCeiling (ceiling : Value)
  /-- The value is out of range. -/
  | outOfRange (value ceiling : Int)

/-- The text of a fault. -/
def Fault.message : Fault → String
  | badCeiling ceiling =>
    s!"max_per_msec_size must be an integer >= 1, got {ceiling.display}"
  | outOfRange value ceiling => s!"Counter value {value} outside [0, {ceiling + 1}]"

/-- Whether a counter with this ceiling may hold this value. -/
def InRange (ceiling value : Int) : Prop := 0 ≤ value ∧ value ≤ ceiling + 1

instance (ceiling value : Int) : Decidable (InRange ceiling value) := by
  unfold InRange; infer_instance

/-- A counter in one of the states that its operations keep it in. -/
def Sound (c : Counter) : Prop := 1 ≤ c.ceiling ∧ InRange c.ceiling c.value

instance (c : Counter) : Decidable c.Sound := by
  unfold Sound; infer_instance

/-- The ceiling that a value gives: an integer of at least one. -/
def ceiling? : Value → Option Int
  | .int n => if 1 ≤ n then some n else none
  | _ => none

/-- A counter with the given ceiling and start. -/
def new (ceiling : Value) (start : Int) : Except Fault Counter :=
  match ceiling? ceiling with
  | none => .error (.badCeiling ceiling)
  | some n => if InRange n start then .ok ⟨n, start⟩ else .error (.outOfRange start n)

/-- Sets the value after checking it. -/
def force (c : Counter) (value : Int) : Except Fault Counter :=
  if InRange c.ceiling value then .ok { c with value } else .error (.outOfRange value c.ceiling)

theorem sound_of_new {ceiling : Value} {start : Int} {c : Counter}
    (h : new ceiling start = .ok c) : c.Sound := by
  unfold new at h
  split at h
  · cases h
  · rename_i n hn
    split at h
    · rename_i hr
      cases h
      refine ⟨?_, hr⟩
      unfold ceiling? at hn
      split at hn
      · split at hn
        · cases hn; assumption
        · cases hn
      · cases hn
    · cases h

theorem sound_of_force {c d : Counter} {value : Int} (hc : c.Sound)
    (h : c.force value = .ok d) : d.Sound := by
  unfold force at h
  split at h
  · rename_i hr
    cases h
    exact ⟨hc.1, hr⟩
  · cases h

end Counter

end Sequencer

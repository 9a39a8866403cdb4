import Sequencer.Generator.Schedule

/-!
# Every operation is a row of generations

A generation retried, a batch and a batch under any schedule differ in what they do with the
results; to the generator they all are so many generations one after another. `Spans` says
this of two generators and what was reported between them, and there is one lemma for each
operation. How many generations it were can be read off the clock, which each of them asks once
(`clockCalls_after`).
-/

namespace Sequencer

namespace Generator

/-- The generator after so many generations. -/
def after (g : Generator) : Nat → Generator
  | 0 => g
  | n + 1 => g.generate.generator.after n

/-- What so many generations report, in order. -/
def reported (g : Generator) : Nat → List Notice
  | 0 => []
  | n + 1 => g.generate.notices ++ g.generate.generator.reported n

theorem after_add (g : Generator) (m n : Nat) : g.after (m + n) = (g.after m).after n := by
  induction m generalizing g with
  | zero => rw [Nat.zero_add]; rfl
  | succ m ih =>
    rw [Nat.succ_add]
    exact ih g.generate.generator

theorem reported_add (g : Generator) (m n : Nat) :
    g.reported (m + n) = g.reported m ++ (g.after m).reported n := by
  induction m generalizing g with
  | zero => rw [Nat.zero_add]; rfl
  | succ m ih =>
    rw [Nat.succ_add]
    simp only [reported, after]
    rw [ih g.generate.generator, List.append_assoc]

/-- A generation asks the clock once, whatever comes of it. -/
theorem clockCalls_generate (g : Generator) :
    g.generate.generator.sources.clockCalls = g.sources.clockCalls + 1 := by
  simp only [generate, attempt]
  split
  · rfl
  · split
    · rfl
    · split <;> rfl

theorem clockCalls_after (g : Generator) (n : Nat) :
    (g.after n).sources.clockCalls = g.sources.clockCalls + n := by
  induction n generalizing g with
  | zero => rfl
  | succ n ih =>
    show (g.generate.generator.after n).sources.clockCalls = _
    rw [ih, clockCalls_generate]
    omega

/-- So many generations lead from one generator to the other and report this. -/
def Spans (g g' : Generator) (notices : List Notice) : Prop :=
  ∃ n, g' = g.after n ∧ notices = g.reported n

theorem Spans.refl (g : Generator) : Spans g g [] := ⟨0, rfl, rfl⟩

theorem Spans.generate (g : Generator) : Spans g g.generate.generator g.generate.notices :=
  ⟨1, rfl, by simp [reported]⟩

theorem Spans.trans {g g' g'' : Generator} {first second : List Notice} (h : Spans g g' first)
    (h' : Spans g' g'' second) : Spans g g'' (first ++ second) := by
  obtain ⟨m, rfl, rfl⟩ := h
  obtain ⟨n, rfl, rfl⟩ := h'
  exact ⟨m + n, (after_add g m n).symm, (reported_add g m n).symm⟩

/-- The number of generations is the number of times the clock was asked. -/
theorem Spans.count {g g' : Generator} {notices : List Notice} (h : Spans g g' notices) :
    g' = g.after (g'.sources.clockCalls - g.sources.clockCalls) ∧
      notices = g.reported (g'.sources.clockCalls - g.sources.clockCalls) := by
  obtain ⟨n, rfl, rfl⟩ := h
  rw [clockCalls_after, Nat.add_sub_cancel_left]
  exact ⟨rfl, rfl⟩

/-! ## One worker -/

variable (policy : RetryPolicy) (fraction : Binary64)

theorem spans_retryFrom (pauses : Pauses) (g : Generator) (failures left : Nat) :
    Spans g (g.retryFrom pauses failures left).generator
      (g.retryFrom pauses failures left).notices := by
  induction left generalizing g failures with
  | zero => exact Spans.generate g
  | succ left ih =>
    simp only [retryFrom]
    split
    · split
      · exact Spans.generate g
      -- Tried again: one generation more, then those of the further attempts.
      · exact (Spans.generate g).trans (ih g.generate.generator (failures + 1))
    · exact Spans.generate g

theorem spans_generateWithRetry (g : Generator) :
    Spans g (g.generateWithRetry policy fraction).generator
      (g.generateWithRetry policy fraction).notices :=
  spans_retryFrom (.steady policy fraction) g 0 _

theorem spans_generateMany (g : Generator) (count : Nat) :
    Spans g (g.generateMany policy fraction count).generator
      (g.generateMany policy fraction count).notices := by
  induction count generalizing g with
  | zero => exact Spans.refl g
  | succ count ih =>
    simp only [generateMany]
    split
    · exact spans_generateWithRetry policy fraction g
    · exact (spans_generateWithRetry policy fraction g).trans (ih _)

/-! ## Several workers -/

theorem spans_runWorkers (perThread : Nat) (g : Generator) (workers : Nat) :
    Spans g (g.runWorkers policy fraction perThread workers).generator
      (g.runWorkers policy fraction perThread workers).notices := by
  induction workers generalizing g with
  | zero => exact Spans.refl g
  | succ workers ih =>
    simp only [runWorkers]
    exact (spans_generateMany policy fraction g perThread).trans (ih _)

theorem spans_generateBatch (g : Generator) (threads perThread : Int) :
    Spans g (g.generateBatch threads perThread policy fraction).generator
      (g.generateBatch threads perThread policy fraction).notices := by
  unfold generateBatch
  split
  · exact Spans.refl g
  · split
    · exact Spans.refl g
    · exact spans_runWorkers policy fraction _ g _

end Generator

namespace Pool

variable {perThread : Nat} {policy : RetryPolicy} {fraction : Binary64}

/-- A turn adds one generation to what a pool has behind it, or none. -/
theorem spans_turn {g : Generator} {p : Pool} (h : Generator.Spans g p.generator p.notices)
    (i : Nat) :
    Generator.Spans g (p.turn perThread policy fraction i).generator
      (p.turn perThread policy fraction i).notices := by
  unfold turn
  split
  · exact h
  · split
    · exact h.trans (Generator.Spans.generate p.generator)
    · exact h

/-- Whatever the schedule, a batch is a row of generations. -/
theorem spans_run {g : Generator} {p : Pool} (h : Generator.Spans g p.generator p.notices)
    (schedule : List Nat) :
    Generator.Spans g (p.run perThread policy fraction schedule).generator
      (p.run perThread policy fraction schedule).notices := by
  induction schedule generalizing p with
  | nil => exact h
  | cons i rest ih => exact ih (spans_turn h i)

end Pool

end Sequencer

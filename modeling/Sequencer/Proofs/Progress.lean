import Sequencer.Proofs.Sharing

/-!
# Progress of threads

Each thread has a bound of the steps it has left. A step that changes anything lowers the bound of
its thread and leaves the others alone (`left_step_lt`), and while a call has not ended some thread
can make such a step (`exists_step_lt`). So every schedule can be continued until all calls have
ended (`can_end`).
-/

namespace Sequencer

namespace Shared

open Session (Report)

/-! ## Steps left -/

/-- How many steps the locked part has left at most. -/
def Inside.left : Inside → Nat
  | entered _ => 6
  | stamped .. => 5
  | counted .. => 4
  | drawn .. => 3
  | composed .. | setting _ | looking => 2
  | leaving _ => 1

/-- How many steps a call has left at most. -/
def Stage.left : Stage → Nat
  | idle => 8
  | waiting _ => 7
  | inside point => point.left

/-- How many steps a thread has left at most, and those of one call more. -/
def Thread.left (th : Thread) : Nat := th.todo.length * 8 + th.stage.left

/-- The bound of all threads. -/
def leftOf : List Thread → Nat
  | [] => 0
  | th :: rest => th.left + leftOf rest

/-- The bound of a system. -/
def System.left (s : System) : Nat := leftOf s.threads

theorem Inside.left_advance_lt {point : Inside} (g : Generator)
    (goesOn : ∀ report, point ≠ .leaving report) : (point.advance g).1.left < point.left := by
  cases point with
  | entered ceiling =>
    dsimp only [advance]
    split <;> simp [left]
  | counted seen stamp =>
    dsimp only [advance]
    split <;> simp [left]
  | drawn seen stamp suffix =>
    dsimp only [advance]
    split <;> simp [left]
  | stamped ceiling stamp => simp [advance, left]
  | composed seen identifier => simp [advance, left]
  | setting value => simp [advance, left]
  | looking => simp [advance, left]
  | leaving report => exact absurd rfl (goesOn report)

theorem Inside.left_lt (point : Inside) : point.left < 7 := by
  cases point <;> simp [left]

theorem Thread.left_ended_lt {th : Thread} {call : Call} {rest : List Call} (report : Report)
    (next : th.todo = call :: rest) : (th.ended report).left < th.left := by
  have hstage : 1 ≤ th.stage.left := by
    cases th.stage with
    | idle => simp [Stage.left]
    | waiting request => simp [Stage.left]
    | inside point => cases point <;> simp [Stage.left, Inside.left]
  simp only [left, ended, next, List.tail_cons, List.length_cons]
  show rest.length * 8 + 8 < _
  omega

theorem leftOf_set_lt {threads : List Thread} {i : Nat} {th th' : Thread}
    (found : threads[i]? = some th) (h : th'.left < th.left) :
    leftOf (threads.set i th') < leftOf threads := by
  induction threads generalizing i with
  | nil => cases found
  | cons u rest ih =>
    cases i with
    | zero =>
      cases found
      simp only [List.set_cons_zero, leftOf]
      omega
    | succ i =>
      have hrest := ih (i := i) found
      simp only [List.set_cons_succ, leftOf]
      omega

/-! ## Nothing gets stuck -/

/-- A thread that has something to do and does not wait for a held lock gets on. -/
theorem left_step_lt {g : Generator} {programs : List (List Call)} {s : System} {i : Nat}
    (h : s.Consistent g programs) {th : Thread} (found : s.threads[i]? = some th)
    (busy : ¬ (th.stage = .idle ∧ th.todo = []))
    (able : ¬ ((∃ request, th.stage = .waiting request) ∧ s.holder ≠ none)) :
    (s.step i).left < s.left := by
  generalize hs : s.step i = s'
  have hmoves := moves_step s i
  rw [hs] at hmoves
  cases hmoves with
  | stays why =>
    -- The reasons to stay are the two that are excluded.
    rcases why th found with hidle | hwaits
    · exact absurd hidle busy
    · exact absurd hwaits able
  | rejects hth idle next rejected =>
    exact leftOf_set_lt hth (Thread.left_ended_lt _ next)
  | prepares hth idle next prepared =>
    apply leftOf_set_lt hth
    simp only [Thread.left, idle, Stage.left]
    omega
  | @takes u request hth waiting free =>
    apply leftOf_set_lt hth
    have := request.enter.left_lt
    simp only [Thread.left, waiting, Stage.left]
    omega
  | advances hth inside goesOn =>
    apply leftOf_set_lt hth
    have := Inside.left_advance_lt s.generator goesOn
    simp only [Thread.left, inside, Stage.left]
    omega
  | leaves hth inside =>
    obtain ⟨_, _, _, next, -⟩ := h.ends hth inside
    exact leftOf_set_lt hth (Thread.left_ended_lt _ next)

namespace System.Consistent

variable {g : Generator} {programs : List (List Call)} {s : System}

/-- While a call has not ended, some thread gets on: the holder, or anyone if there is none. -/
theorem exists_step_lt (h : s.Consistent g programs) (hs : ¬ s.Ended) :
    ∃ i, (s.step i).left < s.left := by
  cases hholder : s.holder with
  | some i =>
    obtain ⟨th, point, _, _, _, found, inside, -⟩ := h.held i hholder
    refine ⟨i, left_step_lt h found ?_ ?_⟩
    · rw [inside]
      simp
    · rw [inside]
      simp
  | none =>
    unfold System.Ended at hs
    simp only [Classical.not_forall] at hs
    obtain ⟨th, hmem, hbusy⟩ := hs
    obtain ⟨i, found⟩ := List.mem_iff_getElem?.mp hmem
    refine ⟨i, left_step_lt h found ?_ ?_⟩
    · exact fun hidle => hbusy hidle.2
    · exact fun hwaits => hwaits.2 hholder

theorem can_end (h : s.Consistent g programs) : ∃ more, (s.run more).Ended := by
  generalize hn : s.left = n
  induction n using Nat.strongRecOn generalizing s with
  | ind n ih =>
    by_cases hs : s.Ended
    · exact ⟨[], hs⟩
    · obtain ⟨i, hlt⟩ := h.exists_step_lt hs
      obtain ⟨more, hmore⟩ := ih _ (hn ▸ hlt) (h.step i) rfl
      exact ⟨i :: more, hmore⟩

end System.Consistent

end Shared

end Sequencer

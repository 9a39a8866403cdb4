import Sequencer.Proofs.Turns

/-!
# Workers one after another

Batches are made with workers that run one after another. That is one of the schedules: a worker
that is tried again takes its turns in a row (`follows_retrySteadily`), so does one with its whole
part (`follows_generateMany`), and the workers follow each other (`run_runWorkers`). What holds
under every schedule therefore holds of batches as they are made (`exists_schedule`).
-/

namespace Sequencer

/-- What a worker that had made so much comes to. -/
def Worker.ComesTo (w : Worker) (made : List String) :
    Except GenerationFault (List String) → Prop
  | .ok identifiers => w = ⟨made ++ identifiers, 0, none⟩
  | .error fault => w.stopped = some fault

namespace Generator

variable {policy : RetryPolicy} {fraction : Binary64} {g : Generator}

/-- An attempt that is not tried again is the whole call. -/
theorem retrySteadily_of_last (failures : Nat) {left : Nat}
    (last : ∀ fault, g.generate.result = .error fault → fault.isTransient = false ∨ left = 0) :
    g.retrySteadily policy fraction failures left = { g.generate with waits := [] } := by
  unfold retrySteadily
  cases left with
  | zero =>
    rw [retryFrom]
    rfl
  | succ left =>
    rw [retryFrom, if_neg]
    · rfl
    · cases hresult : g.generate.result with
      | ok identifier => simp [isRetried]
      | error fault =>
        have htransient := (last fault hresult).resolve_right (by omega)
        simp [isRetried, htransient]

theorem retrySteadily_of_again {fault : GenerationFault}
    (hresult : g.generate.result = .error fault) (transient : fault.isTransient = true)
    (failures left : Nat) :
    let later := g.generate.generator.retrySteadily policy fraction (failures + 1) left
    g.retrySteadily policy fraction failures (left + 1) = { later with
      notices := g.generate.notices ++ later.notices
      waits := policy.wait fraction (failures + 1) :: later.waits } := by
  simp [retrySteadily, retryFrom, isRetried, hresult, transient, Pauses.steady]

end Generator

namespace Pool

variable {perThread : Nat} {policy : RetryPolicy} {fraction : Binary64} {p : Pool} {i : Nat}
  {w : Worker}

theorem run_append (p : Pool) (first second : List Nat) :
    p.run perThread policy fraction (first ++ second) =
      (p.run perThread policy fraction first).run perThread policy fraction second :=
  List.foldl_append

theorem turn_of_busy (found : p.workers[i]? = some w) (busy : w.isBusy perThread = true) :
    p.turn perThread policy fraction i = p.attempted policy fraction i w := by
  unfold turn
  rw [found]
  dsimp only
  rw [busy]
  rfl

/-- The pool after an outcome of one worker, which then is as given. -/
def moved {ε α : Type} (p : Pool) (i : Nat) (w : Worker) (r : Waited ε α) : Pool :=
  ⟨r.generator, p.workers.set i w, p.notices ++ r.notices, p.waits ++ r.waits⟩

/-- Turns of one worker in a row lead where an outcome says, and the worker, which had made so
much, comes to what it delivers. -/
def Follows (perThread : Nat) (policy : RetryPolicy) (fraction : Binary64) (p : Pool) (i : Nat)
    (made : List String) (r : Waited GenerationFault (List String)) : Prop :=
  ∃ (turns : Nat) (w : Worker),
    p.run perThread policy fraction (List.replicate turns i) = p.moved i w r ∧
      w.ComesTo made r.result

theorem Follows.of_turns {turns : Nat} {p' : Pool} {made made' : List String}
    {r r' : Waited GenerationFault (List String)}
    (hfirst : p.run perThread policy fraction (List.replicate turns i) = p')
    (h : p'.Follows perThread policy fraction i made' r')
    (hmoved : ∀ w, p'.moved i w r' = p.moved i w r)
    (hcomes : ∀ w : Worker, w.ComesTo made' r'.result → w.ComesTo made r.result) :
    p.Follows perThread policy fraction i made r := by
  obtain ⟨more, w, hrun, hw⟩ := h
  refine ⟨turns + more, w, ?_, hcomes w hw⟩
  rw [← List.replicate_append_replicate, run_append, hfirst, hrun, hmoved]

/-- The outcome of one identifier as that of a list. -/
def single (r : Waited GenerationFault String) : Waited GenerationFault (List String) :=
  { r with result := r.result.map fun identifier => [identifier] }

/-- An attempt that is not tried again is one turn. -/
theorem follows_last (found : p.workers[i]? = some w) (busy : w.isBusy perThread = true)
    {left : Nat} (hleft : w.failures + left + 1 = policy.attempts)
    (last : ∀ fault, p.generator.generate.result = .error fault →
      fault.isTransient = false ∨ left = 0) :
    p.Follows perThread policy fraction i w.made
      (single (p.generator.retrySteadily policy fraction w.failures left)) := by
  rw [Generator.retrySteadily_of_last w.failures last]
  have hopen := (Worker.isBusy_iff.mp busy).1
  have hstops : ∀ fault, p.generator.generate.result = .error fault →
      w.triesAgain policy fault = false := by
    intro fault hfault
    simp only [Worker.triesAgain, Bool.and_eq_false_iff, decide_eq_false_iff_not]
    rcases last fault hfault with permanent | rfl
    · exact .inl permanent
    · exact .inr (by omega)
  refine ⟨1, w.after policy p.generator.generate.result, ?_, ?_⟩
  · show p.turn perThread policy fraction i = _
    rw [turn_of_busy found busy, attempted]
    cases hresult : p.generator.generate.result with
    | ok identifier => rfl
    | error fault => simp [moved, single, Worker.waits, hstops fault hresult]
  · unfold single
    dsimp only
    cases hresult : p.generator.generate.result with
    | ok identifier =>
      show Worker.mk _ _ _ = _
      rw [hopen]
    | error fault =>
      show (w.after policy (.error fault)).stopped = some fault
      simp [Worker.after, hstops fault hresult]

/-- A busy worker, tried again, takes its turns in a row. -/
theorem follows_retrySteadily (found : p.workers[i]? = some w) (busy : w.isBusy perThread = true)
    {left : Nat} (hleft : w.failures + left + 1 = policy.attempts) :
    p.Follows perThread policy fraction i w.made
      (single (p.generator.retrySteadily policy fraction w.failures left)) := by
  induction left generalizing p w with
  | zero => exact follows_last found busy hleft fun _ _ => .inr rfl
  | succ left ih =>
    cases hresult : p.generator.generate.result with
    | ok identifier =>
      refine follows_last found busy hleft fun fault hfault => ?_
      rw [hresult] at hfault
      cases hfault
    | error fault =>
      cases transient : fault.isTransient with
      | false =>
        refine follows_last found busy hleft fun fault' hfault => ?_
        rw [hresult] at hfault
        cases hfault
        exact .inl transient
      | true =>
        -- The worker waits with one failure more, and the others are where they were.
        have hlt := (List.getElem?_eq_some_iff.mp found).1
        have hagain : w.triesAgain policy fault = true := by
          simp only [Worker.triesAgain, transient, Bool.true_and, decide_eq_true_eq]
          omega
        have hafter : w.after policy (.error fault) = { w with failures := w.failures + 1 } := by
          rw [Worker.after, hagain, if_pos rfl]
        have hturn : p.run perThread policy fraction (List.replicate 1 i) =
            p.attempted policy fraction i w := turn_of_busy found busy
        have hfound : (p.attempted policy fraction i w).workers[i]? =
            some { w with failures := w.failures + 1 } := by
          rw [attempted, hresult, hafter]
          exact List.getElem?_set_self hlt
        have hattempts : w.failures + 1 + left + 1 = policy.attempts := by omega
        have hlater := ih hfound busy hattempts
        refine .of_turns hturn hlater (fun u => ?_) fun u hu => ?_
        · rw [Generator.retrySteadily_of_again hresult transient]
          simp [moved, attempted, single, hresult, Worker.waits, hagain]
        · rw [Generator.retrySteadily_of_again hresult transient]
          exact hu

theorem follows_generateWithRetry {made : List String}
    (found : p.workers[i]? = some ⟨made, 0, none⟩) (hmade : made.length < perThread) :
    p.Follows perThread policy fraction i made
      (single (p.generator.generateWithRetry policy fraction)) := by
  have hattempts := policy.attempts_pos
  refine follows_retrySteadily found (Worker.isBusy_iff.mpr ⟨rfl, hmade⟩) ?_
  show 0 + (policy.attempts - 1) + 1 = policy.attempts
  omega

/-- A worker with its whole part before it takes its turns in a row. -/
theorem follows_generateMany {made : List String} (found : p.workers[i]? = some ⟨made, 0, none⟩)
    {count : Nat} (hcount : made.length + count = perThread) :
    p.Follows perThread policy fraction i made
      (p.generator.generateMany policy fraction count) := by
  have hlt := (List.getElem?_eq_some_iff.mp found).1
  induction count generalizing p made with
  | zero =>
    refine ⟨0, ⟨made, 0, none⟩, ?_, ?_⟩
    · have hset : p.workers.set i ⟨made, 0, none⟩ = p.workers := by
        obtain ⟨_, hget⟩ := List.getElem?_eq_some_iff.mp found
        rw [← hget]
        exact List.set_getElem_self hlt
      simp [moved, Generator.generateMany, run, hset]
    · simp [Generator.generateMany, Worker.ComesTo]
  | succ count ih =>
    have hmade : made.length < perThread := by omega
    have hfirst : p.Follows perThread policy fraction i made _ :=
      follows_generateWithRetry found hmade
    obtain ⟨turns, w, hrun, hcomes⟩ := hfirst
    rw [Generator.generateMany]
    cases hresult : (p.generator.generateWithRetry policy fraction).result with
    | error fault =>
      rw [single, hresult] at hcomes
      exact ⟨turns, w, hrun, hcomes⟩
    | ok identifier =>
      rw [single, hresult] at hcomes
      obtain rfl : w = ⟨made ++ [identifier], 0, none⟩ := hcomes
      have hfound : (p.moved i ⟨made ++ [identifier], 0, none⟩
          (single (p.generator.generateWithRetry policy fraction))).workers[i]? =
            some ⟨made ++ [identifier], 0, none⟩ :=
        List.getElem?_set_self hlt
      have hpart : (made ++ [identifier]).length + count = perThread := by
        rw [List.length_append, List.length_singleton]
        omega
      have hlater := ih hfound hpart (by simpa [moved] using hlt)
      refine .of_turns hrun hlater (fun u => ?_) fun u hu => ?_
      · simp [moved, single]
      · unfold single at hu
        dsimp only [moved] at hu ⊢
        cases hrest : ((p.generator.generateWithRetry policy fraction).generator.generateMany
            policy fraction count).result with
        | error fault =>
          rw [hrest] at hu
          exact hu
        | ok identifiers =>
          rw [hrest] at hu
          obtain rfl : u = ⟨made ++ [identifier] ++ identifiers, 0, none⟩ := hu
          show _ = Worker.mk (made ++ identifier :: identifiers) 0 none
          simp

/-! ## All workers -/

theorem not_isBusy_of_comesTo {made : List String} {r : Except GenerationFault (List String)}
    (h : w.ComesTo made r)
    (whole : ∀ identifiers, r = .ok identifiers → (made ++ identifiers).length = perThread) :
    w.isBusy perThread = false := by
  cases r with
  | error fault =>
    have hstopped : w.stopped = some fault := h
    simp [Worker.isBusy, hstopped]
  | ok identifiers =>
    obtain rfl : w = ⟨made ++ identifiers, 0, none⟩ := h
    have hlen := whole identifiers rfl
    simp [Worker.isBusy, hlen]

theorem collect_of_comesTo {r : Except GenerationFault (List String)} (h : w.ComesTo [] r)
    (later : List Worker) :
    Worker.collect (w :: later) = do
      let identifiers ← r
      return identifiers ++ (← Worker.collect later) := by
  cases r with
  | error fault =>
    have hstopped : w.stopped = some fault := h
    rw [Worker.collect, hstopped]
    rfl
  | ok identifiers =>
    obtain rfl : w = ⟨identifiers, 0, none⟩ := h
    rw [Worker.collect]
    cases Worker.collect later with
    | error fault => rfl
    | ok rest => rfl

/-- Workers that have done nothing yet run one after another, behind others that are done. -/
theorem run_runWorkers (perThread : Nat) (policy : RetryPolicy) (fraction : Binary64) (p : Pool)
    {done : List Worker} {workers : Nat}
    (hworkers : p.workers = done ++ List.replicate workers .fresh) :
    ∃ (schedule : List Nat) (later : List Worker),
      let r := p.generator.runWorkers policy fraction perThread workers
      p.run perThread policy fraction schedule =
          ⟨r.generator, done ++ later, p.notices ++ r.notices, p.waits ++ r.waits⟩ ∧
        (∀ w ∈ later, w.isBusy perThread = false) ∧ Worker.collect later = r.result := by
  -- On the workers that have not begun; those that are done stand in front and stay there.
  induction workers generalizing p done with
  | zero =>
    rw [List.replicate_zero] at hworkers
    refine ⟨[], [], ?_, by simp, rfl⟩
    simp only [Generator.runWorkers, List.append_nil]
    rw [List.append_nil] at hworkers
    rw [← hworkers]
    rfl
  | succ workers ih =>
    have hfound : p.workers[done.length]? = some ⟨[], 0, none⟩ := by
      rw [hworkers, List.getElem?_append_right (Nat.le_refl _), Nat.sub_self]
      rfl
    have hfirst : p.Follows perThread policy fraction done.length []
        (p.generator.generateMany policy fraction perThread) :=
      follows_generateMany hfound (Nat.zero_add _)
    obtain ⟨turns, w, hrun, hcomes⟩ := hfirst
    have hset : p.workers.set done.length w = done ++ [w] ++ List.replicate workers .fresh := by
      rw [hworkers, List.set_append_right _ _ (Nat.le_refl _), Nat.sub_self,
        List.replicate_succ, List.set_cons_zero, List.append_assoc]
      rfl
    obtain ⟨schedule, later, hlater, hidle, hcollect⟩ :=
      ih (p.moved done.length w (p.generator.generateMany policy fraction perThread)) hset
    refine ⟨List.replicate turns done.length ++ schedule, w :: later, ?_, ?_, ?_⟩
    · rw [run_append, hrun, hlater]
      simp [Generator.runWorkers, moved]
    · rintro u (_ | ⟨_, hu⟩)
      · refine not_isBusy_of_comesTo hcomes fun identifiers hok => ?_
        exact Generator.length_of_generateMany hok
      · exact hidle u hu
    · rw [collect_of_comesTo hcomes, hcollect]
      rfl

/-- A batch whose workers run one after another is a batch under some schedule. -/
theorem exists_schedule (perThread : Nat) (policy : RetryPolicy) (fraction : Binary64)
    (g : Generator) (threads : Nat) :
    ∃ schedule,
      let p := (start g threads).run perThread policy fraction schedule
      let r := g.runWorkers policy fraction perThread threads
      p.result perThread = some r.result ∧ p.generator = r.generator ∧ p.notices = r.notices ∧
        p.waits = r.waits := by
  obtain ⟨schedule, later, hrun, hidle, hcollect⟩ :=
    run_runWorkers perThread policy fraction (start g threads) (List.nil_append _).symm
  refine ⟨schedule, ?_⟩
  have hnone : later.any (·.isBusy perThread) = false := by
    rw [List.any_eq_false]
    intro w hw
    simp [hidle w hw]
  dsimp only
  rw [hrun, result, List.nil_append, hnone, if_neg Bool.false_ne_true, hcollect]
  exact ⟨rfl, rfl, List.nil_append _, List.nil_append _⟩

end Pool

end Sequencer

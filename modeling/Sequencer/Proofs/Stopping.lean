import Sequencer.Proofs.Accounts
import Sequencer.Proofs.Retrying

/-!
# Batches whose workers stop

What becomes of a batch when calls fail, under whatever schedule. The attempts of all workers run
beside the pool, and those of one worker split into rows, one for each call (`Call`): calls that
returned, one after another, and then perhaps the one at which the worker stopped. `Performed` says
so of a worker at any time, every attempt of its own keeps it, and the attempts of others do not
touch it. When no worker is busy each has made its whole part or stopped by itself (`Ends`), and the
batch gives the fault of the first that stopped in the order of the workers
(`collect_eq_error_iff`).
-/

namespace Sequencer

/-! ## Rows of attempts -/

/-- What attempts gave, one after another. -/
abbrev Row := List (Except GenerationFault String)

/-- Attempts of a call that is not over: all failed, may be tried again, and the policy allows one
more. -/
structure Pending (policy : RetryPolicy) (row : Row) : Prop where
  failed : ∀ result ∈ row, ∃ fault, result = .error fault ∧ fault.isTransient = true
  length_lt : row.length < policy.attempts

/-- The attempts of a call that is over, with what it gave. -/
structure Call (policy : RetryPolicy) (row : Row) (result : Except GenerationFault String) :
    Prop where
  pending : ∃ front, row = front ++ [result] ∧ Pending policy front
  last : ∀ fault, result = .error fault → fault.isTransient = false ∨ row.length = policy.attempts

theorem pending_nil (policy : RetryPolicy) : Pending policy [] := ⟨nofun, policy.attempts_pos⟩

namespace Pending

variable {policy : RetryPolicy} {row : Row} {fault : GenerationFault}

/-- One more attempt fails and may be tried again. -/
theorem again (h : Pending policy row) (transient : fault.isTransient = true)
    (more : row.length + 1 < policy.attempts) : Pending policy (row ++ [.error fault]) where
  failed result hmem := by
    rcases List.mem_append.mp hmem with hold | hnew
    · exact h.failed result hold
    · exact ⟨fault, List.mem_singleton.mp hnew, transient⟩
  length_lt := by
    rw [List.length_append, List.length_singleton]
    exact more

/-- The call returns. -/
theorem returns (h : Pending policy row) (identifier : String) :
    Call policy (row ++ [.ok identifier]) (.ok identifier) where
  pending := ⟨row, rfl, h⟩
  last other heq := by cases heq

/-- The call fails at last. -/
theorem raises (h : Pending policy row)
    (last : fault.isTransient = true → ¬ row.length + 1 < policy.attempts) :
    Call policy (row ++ [.error fault]) (.error fault) where
  pending := ⟨row, rfl, h⟩
  last other heq := by
    obtain rfl : fault = other := Except.error.inj heq
    by_cases htransient : fault.isTransient = true
    · have hlimit := last htransient
      have hless := h.length_lt
      rw [List.length_append, List.length_singleton]
      omega
    · exact .inl (Bool.eq_false_iff.mpr htransient)

end Pending

/-- What so many generations give. -/
def Generator.row (g : Generator) (n : Nat) : Row :=
  (List.range n).map fun i => (g.after i).generate.result

theorem Generator.row_succ (g : Generator) (n : Nat) :
    g.row (n + 1) = g.generate.result :: g.generate.generator.row n := by
  unfold row
  rw [List.range_succ_eq_map, List.map_cons, List.map_map]
  rfl

@[simp] theorem Generator.length_row (g : Generator) (n : Nat) : (g.row n).length = n := by
  simp [row]

/-- A call that nobody comes between is such a row. -/
theorem Generator.call_generateWithRetry (g : Generator) (policy : RetryPolicy)
    (fraction : Binary64) :
    ∃ n, Call policy (g.row n) (g.generateWithRetry policy fraction).result ∧
      (g.generateWithRetry policy fraction).generator = g.after n := by
  obtain ⟨moves, hrule⟩ := g.retried_call (.steady policy fraction) policy
  obtain ⟨further, h⟩ := hrule.exists_tries
  have hattempts : policy.attempts = max 1 policy.maxAttempts.toNat := rfl
  have hwithin := h.within
  -- Steady pauses never fail, so a call ends with the last attempt that is allowed or decides.
  have hstuck : (g.retryFrom (.steady policy fraction) 0 (policy.attempts - 1)).stuck = none := by
    rw [h.stuck_eq]
    exact ite_self _
  have hresult : (g.generateWithRetry policy fraction).result =
      (g.after further).generate.result := h.result_eq
  refine ⟨further + 1, ⟨⟨g.row further, ?_, ?_, ?_⟩, ?_⟩, h.generator_eq⟩
  · rw [hresult, row, List.range_succ, List.map_append]
    rfl
  · intro result hmem
    obtain ⟨i, hi, rfl⟩ := List.mem_map.mp hmem
    obtain ⟨fault, hfault, hsource⟩ := h.failed i (List.mem_range.mp hi)
    exact ⟨fault, hfault, GenerationFault.isTransient_iff.mpr hsource⟩
  · rw [length_row]
    omega
  · intro fault hfault
    rw [hresult] at hfault
    rw [length_row]
    by_cases htransient : fault.isTransient = true
    · have hretried : isRetried (g.after further).generate.result = true := by
        rw [hfault]
        exact htransient
      have hlimit := (h.last hretried).resolve_right fun hne => hne hstuck
      exact .inr (by omega)
    · exact .inl (Bool.not_eq_true _ ▸ htransient)

/-! ## The attempts of a schedule -/

/-- An attempt: whose it was and what it gave. -/
structure Attempt where
  worker : Nat
  result : Except GenerationFault String

namespace Attempt

/-- What the attempts of one worker gave. -/
def rowOf (attempts : List Attempt) (i : Nat) : Row :=
  (attempts.filter (·.worker = i)).map result

theorem rowOf_append (first second : List Attempt) (i : Nat) :
    rowOf (first ++ second) i = rowOf first i ++ rowOf second i := by
  rw [rowOf, List.filter_append, List.map_append]
  rfl

/-- How many attempts succeeded. -/
def successes (attempts : List Attempt) : Nat := (attempts.map result).countP Except.isOk

end Attempt

namespace Pool

/-- The attempt of a worker's turn: there is one if the worker is busy. -/
def attempt? (perThread : Nat) (p : Pool) (i : Nat) : Option Attempt :=
  match p.workers[i]? with
  | none => none
  | some w => if w.isBusy perThread then some ⟨i, p.generator.generate.result⟩ else none

/-- The attempts of a schedule, in order. -/
def attempts (perThread : Nat) (policy : RetryPolicy) (fraction : Binary64) (p : Pool) :
    List Nat → List Attempt
  | [] => []
  | i :: rest =>
    (p.attempt? perThread i).toList ++
      (p.turn perThread policy fraction i).attempts perThread policy fraction rest

variable {perThread : Nat} {policy : RetryPolicy} {fraction : Binary64} {p : Pool}

theorem attempt?_of_found {i : Nat} {w : Worker} (found : p.workers[i]? = some w) :
    p.attempt? perThread i =
      if w.isBusy perThread then some ⟨i, p.generator.generate.result⟩ else none := by
  unfold attempt?
  rw [found]

theorem attempt?_of_passes {i : Nat}
    (why : ∀ w, p.workers[i]? = some w → w.isBusy perThread = false) :
    p.attempt? perThread i = none := by
  unfold attempt?
  split
  · rfl
  · rename_i w found
    rw [why w found, if_neg Bool.false_ne_true]

/-- The attempts of a schedule are generations in a row. -/
theorem attempts_eq_row (perThread : Nat) (policy : RetryPolicy) (fraction : Binary64) (p : Pool)
    (schedule : List Nat) :
    let attempts := p.attempts perThread policy fraction schedule
    (p.run perThread policy fraction schedule).generator = p.generator.after attempts.length ∧
      attempts.map Attempt.result = p.generator.row attempts.length := by
  induction schedule generalizing p with
  | nil => exact ⟨rfl, rfl⟩
  | cons i rest ih =>
    obtain ⟨hgenerator, hrow⟩ := ih (p.turn perThread policy fraction i)
    have hturn := turn_cases perThread policy fraction p i
    dsimp only at hgenerator hrow ⊢
    rw [attempts, List.map_append, List.length_append, hrow]
    show ((p.turn perThread policy fraction i).run perThread policy fraction rest).generator = _ ∧ _
    rw [hgenerator]
    generalize p.turn perThread policy fraction i = p', p.commit? perThread i = commit at hturn ⊢
    cases hturn with
    | passes why =>
      rw [attempt?_of_passes why]
      simp
    | attempts found busy =>
      rw [attempt?_of_found found, if_pos busy]
      simp only [Option.toList_some, List.length_singleton, Nat.add_comm 1, Generator.row_succ]
      exact ⟨rfl, rfl⟩

end Pool

/-! ## What a worker performs -/

/-- The calls of a worker until now: one row for each identifier it made, and the attempts after
them, which are those of a call that is not over, or of the one that the worker stopped at. -/
structure Worker.Performed (perThread : Nat) (policy : RetryPolicy) (rows : List Row) (rest : Row)
    (w : Worker) : Prop where
  returned : List.Forall₂ (fun row identifier => Call policy row (.ok identifier)) rows w.made
  made_le : w.made.length ≤ perThread
  running : w.stopped = none →
    Pending policy rest ∧ rest.length = w.failures ∧ (w.made.length = perThread → rest = [])
  stopped : ∀ fault, w.stopped = some fault →
    w.made.length < perThread ∧ Call policy rest (.error fault)

namespace Worker.Performed

variable {perThread : Nat} {policy : RetryPolicy} {rows : List Row} {rest : Row} {w : Worker}

theorem fresh (perThread : Nat) (policy : RetryPolicy) :
    Worker.fresh.Performed perThread policy [] [] where
  returned := .nil
  made_le := Nat.zero_le _
  running _ := ⟨pending_nil policy, rfl, fun _ => rfl⟩
  stopped fault h := by cases h

/-- A call returns. -/
theorem succeeds (h : w.Performed perThread policy rows rest) (busy : w.isBusy perThread = true)
    (identifier : String) :
    (w.after policy (.ok identifier)).Performed perThread policy
      (rows ++ [rest ++ [.ok identifier]]) [] := by
  obtain ⟨hopen, hlt⟩ := Worker.isBusy_iff.mp busy
  obtain ⟨hpending, -, -⟩ := h.running hopen
  constructor
  case returned => exact List.rel_append h.returned (.cons (hpending.returns identifier) .nil)
  case made_le =>
    show (w.made ++ [identifier]).length ≤ perThread
    rw [List.length_append, List.length_singleton]
    omega
  case running => exact fun _ => ⟨pending_nil policy, rfl, fun _ => rfl⟩
  case stopped =>
    intro fault hstopped
    have hnone : (w.after policy (.ok identifier)).stopped = none := hopen
    rw [hnone] at hstopped
    cases hstopped

/-- An attempt fails: the call goes on, or the worker stops at it. -/
theorem fails (h : w.Performed perThread policy rows rest) (busy : w.isBusy perThread = true)
    (fault : GenerationFault) :
    (w.after policy (.error fault)).Performed perThread policy rows (rest ++ [.error fault]) := by
  obtain ⟨hopen, hlt⟩ := Worker.isBusy_iff.mp busy
  obtain ⟨hpending, hlength, -⟩ := h.running hopen
  have hagain : w.triesAgain policy fault = true ↔
      fault.isTransient = true ∧ rest.length + 1 < policy.attempts := by
    rw [Worker.triesAgain, Bool.and_eq_true, decide_eq_true_iff, hlength]
  unfold Worker.after
  dsimp only
  split
  · rename_i again
    obtain ⟨transient, more⟩ := hagain.mp again
    constructor
    case returned => exact h.returned
    case made_le => exact h.made_le
    case running =>
      intro _
      refine ⟨hpending.again transient more, ?_, fun hwhole => ?_⟩
      · rw [List.length_append, List.length_singleton, hlength]
      · have hwhole : w.made.length = perThread := hwhole
        omega
    case stopped =>
      intro other hstopped
      have hstopped : w.stopped = some other := hstopped
      rw [hopen] at hstopped
      cases hstopped
  · rename_i ended
    constructor
    case returned => exact h.returned
    case made_le => exact h.made_le
    case running =>
      intro hnone
      cases hnone
    case stopped =>
      intro other hstopped
      obtain rfl : fault = other := Option.some.inj hstopped
      refine ⟨hlt, hpending.raises fun transient more => ?_⟩
      exact ended (hagain.mpr ⟨transient, more⟩)

/-- Whatever an attempt gives, the rows of the worker take it up. -/
theorem after (h : w.Performed perThread policy rows rest) (busy : w.isBusy perThread = true)
    (result : Except GenerationFault String) :
    ∃ rows' rest', rows.flatten ++ rest ++ [result] = rows'.flatten ++ rest' ∧
      (w.after policy result).Performed perThread policy rows' rest' := by
  cases result with
  | ok identifier => exact ⟨_, _, by simp, h.succeeds busy identifier⟩
  | error fault => exact ⟨_, _, List.append_assoc .., h.fails busy fault⟩

end Worker.Performed

namespace Pool

/-- All workers have performed their own attempts, and no one else made any. -/
structure Performing (perThread : Nat) (policy : RetryPolicy) (threads : Nat)
    (attempts : List Attempt) (p : Pool) : Prop where
  width : p.workers.length = threads
  performed : ∀ (i : Nat) (w : Worker), p.workers[i]? = some w →
    ∃ rows rest, Attempt.rowOf attempts i = rows.flatten ++ rest ∧
      w.Performed perThread policy rows rest
  owner_lt : ∀ a ∈ attempts, a.worker < threads

theorem performing_start (perThread : Nat) (policy : RetryPolicy) (g : Generator)
    (threads : Nat) : Performing perThread policy threads [] (start g threads) where
  width := List.length_replicate
  performed i w h := by
    obtain rfl := List.eq_of_mem_replicate (List.mem_of_getElem? h)
    exact ⟨[], [], rfl, .fresh perThread policy⟩
  owner_lt a h := by cases h

namespace Performing

variable {perThread : Nat} {policy : RetryPolicy} {p : Pool} {threads : Nat}
  {attempts : List Attempt}

theorem turn (h : Performing perThread policy threads attempts p) (fraction : Binary64)
    (i : Nat) :
    Performing perThread policy threads (attempts ++ (p.attempt? perThread i).toList)
      (p.turn perThread policy fraction i) := by
  have hturn := turn_cases perThread policy fraction p i
  generalize p.turn perThread policy fraction i = p', p.commit? perThread i = commit at hturn ⊢
  cases hturn with
  | passes why =>
    rw [attempt?_of_passes why, Option.toList_none, List.append_nil]
    exact h
  | @attempts w found busy =>
    rw [attempt?_of_found found, if_pos busy, Option.toList_some]
    have hlt := (List.getElem?_eq_some_iff.mp found).1
    refine ⟨by rw [attempted, List.length_set, h.width], fun j u hu => ?_, fun a ha => ?_⟩
    · rw [Attempt.rowOf_append]
      by_cases hij : i = j
      · -- The worker whose turn it was has one attempt more.
        subst hij
        rw [attempted, List.getElem?_set_self hlt] at hu
        cases hu
        obtain ⟨rows, rest, hrow, hperformed⟩ := h.performed i w found
        have hown : Attempt.rowOf [⟨i, p.generator.generate.result⟩] i =
            [p.generator.generate.result] := by
          simp [Attempt.rowOf]
        rw [hrow, hown]
        exact hperformed.after busy _
      · -- The others have none.
        rw [attempted, List.getElem?_set_ne hij] at hu
        have hnone : Attempt.rowOf [⟨i, p.generator.generate.result⟩] j = [] := by
          simp [Attempt.rowOf, hij]
        rw [hnone, List.append_nil]
        exact h.performed j u hu
    · rcases List.mem_append.mp ha with hold | hnew
      · exact h.owner_lt a hold
      · rw [List.mem_singleton.mp hnew, ← h.width]
        exact hlt

theorem run (h : Performing perThread policy threads attempts p) (fraction : Binary64)
    (schedule : List Nat) :
    Performing perThread policy threads
      (attempts ++ p.attempts perThread policy fraction schedule)
      (p.run perThread policy fraction schedule) := by
  induction schedule generalizing p attempts with
  | nil =>
    rw [Pool.attempts, List.append_nil]
    exact h
  | cons i rest ih =>
    rw [Pool.attempts, ← List.append_assoc]
    exact ih (h.turn fraction i)

end Performing

end Pool

/-! ## Batches that are over -/

/-- What a worker came to in a batch that is over, after attempts that gave this row: all its calls
returned, or it stopped at the first that did not. -/
inductive Worker.Ends (perThread : Nat) (policy : RetryPolicy) (row : Row) (w : Worker) : Prop
  | whole (rows : List Row) (row_eq : row = rows.flatten)
      (returned : List.Forall₂ (fun row identifier => Call policy row (.ok identifier)) rows w.made)
      (length_eq : w.made.length = perThread) (running : w.stopped = none)
  | stops (rows : List Row) (last : Row) (fault : GenerationFault)
      (row_eq : row = rows.flatten ++ last)
      (returned : List.Forall₂ (fun row identifier => Call policy row (.ok identifier)) rows w.made)
      (length_lt : w.made.length < perThread) (raised : Call policy last (.error fault))
      (stopped : w.stopped = some fault)

theorem Worker.Performed.ends {perThread : Nat} {policy : RetryPolicy} {rows : List Row}
    {rest : Row} {w : Worker} (h : w.Performed perThread policy rows rest)
    (idle : w.isBusy perThread = false) :
    w.Ends perThread policy (rows.flatten ++ rest) := by
  cases hstopped : w.stopped with
  | none =>
    have hwhole : w.made.length = perThread := by
      have hle := h.made_le
      have hnot : ¬ w.made.length < perThread := fun hlt => by
        rw [Worker.isBusy_iff.mpr ⟨hstopped, hlt⟩] at idle
        cases idle
      omega
    obtain ⟨-, -, hnil⟩ := h.running hstopped
    refine .whole rows ?_ h.returned hwhole hstopped
    rw [hnil hwhole, List.append_nil]
  | some fault =>
    obtain ⟨hlt, hcall⟩ := h.stopped fault hstopped
    exact .stops rows rest fault rfl h.returned hlt hcall hstopped

namespace Pool

/-- This worker stopped at this fault, and none before it stopped. -/
def FirstStopped (workers : List Worker) (i : Nat) (fault : GenerationFault) : Prop :=
  (∃ w, workers[i]? = some w ∧ w.stopped = some fault) ∧
    ∀ j, j < i → ∀ u, workers[j]? = some u → u.stopped = none

theorem firstStopped_cons_zero {w : Worker} {rest : List Worker} {fault : GenerationFault} :
    FirstStopped (w :: rest) 0 fault ↔ w.stopped = some fault := by
  simp [FirstStopped]

theorem firstStopped_cons_succ {w : Worker} {rest : List Worker} {i : Nat}
    {fault : GenerationFault} :
    FirstStopped (w :: rest) (i + 1) fault ↔
      w.stopped = none ∧ FirstStopped rest i fault := by
  unfold FirstStopped
  constructor
  · rintro ⟨hfound, hbefore⟩
    exact ⟨hbefore 0 (Nat.succ_pos i) w rfl, hfound,
      fun j hj => hbefore (j + 1) (Nat.succ_lt_succ hj)⟩
  · rintro ⟨hfirst, hfound, hbefore⟩
    refine ⟨hfound, fun j hj u hu => ?_⟩
    cases j with
    | zero =>
      obtain rfl : w = u := Option.some.inj hu
      exact hfirst
    | succ j => exact hbefore j (Nat.lt_of_succ_lt_succ hj) u hu

/-- A batch fails with the fault of the first worker that stopped. -/
theorem collect_eq_error_iff {workers : List Worker} {fault : GenerationFault} :
    Worker.collect workers = .error fault ↔ ∃ i, FirstStopped workers i fault := by
  induction workers with
  | nil => simp [Worker.collect, FirstStopped]
  | cons w rest ih =>
    rw [Worker.collect]
    cases hstopped : w.stopped with
    | some first =>
      dsimp only
      constructor
      · rintro ⟨⟩
        exact ⟨0, firstStopped_cons_zero.mpr hstopped⟩
      · rintro ⟨i, hi⟩
        cases i with
        | zero =>
          rw [firstStopped_cons_zero, hstopped] at hi
          cases hi
          rfl
        | succ i =>
          rw [firstStopped_cons_succ, hstopped] at hi
          cases hi.1
    | none =>
      have hmap : Except.map (w.made ++ ·) (Worker.collect rest) = .error fault ↔
          Worker.collect rest = .error fault := by
        cases Worker.collect rest <;> simp [Except.map]
      show Except.map (w.made ++ ·) (Worker.collect rest) = .error fault ↔ _
      rw [hmap, ih]
      constructor
      · rintro ⟨i, hi⟩
        exact ⟨i + 1, firstStopped_cons_succ.mpr ⟨hstopped, hi⟩⟩
      · rintro ⟨i, hi⟩
        cases i with
        | zero =>
          rw [firstStopped_cons_zero, hstopped] at hi
          cases hi
        | succ i => exact ⟨i, (firstStopped_cons_succ.mp hi).2⟩

end Pool

/-! ## The counter -/

namespace Generator

theorem length_successes_eq (g : Generator) (n : Nat) :
    (g.successes n).length = (g.row n).countP Except.isOk := by
  induction n generalizing g with
  | zero => rfl
  | succ n ih =>
    rw [successes, row_succ, List.countP_cons, List.length_append, ih]
    unfold entry?
    cases g.generate.result with
    | error fault => simp [Except.isOk, Except.toBool]
    | ok identifier => simp [Except.isOk, Except.toBool, Nat.add_comm]

/-- The counter after so many generations of which so many succeeded: as it was if none did. -/
theorem counter_after_eq {g : Generator} (sound : g.counter.Sound) (n : Nat) :
    (g.after n).counter = ⟨g.counter.ceiling,
      if (g.row n).countP Except.isOk = 0 then g.counter.value
      else (g.counter.value + (g.row n).countP Except.isOk - 1) % (g.counter.ceiling + 1) + 1⟩ := by
  rw [← length_successes_eq]
  by_cases hnil : g.successes n = []
  · obtain ⟨l, hbalanced, hbase, hentries, hgenerator⟩ := exists_balanced sound n
    have hvalue := hbalanced.untouched (by rw [hentries, hnil])
    rw [if_pos (by rw [hnil]; rfl), ← hgenerator, hbalanced.counter_eq, hvalue, hbase]
  · rw [if_neg (by simpa using hnil), counter_after sound hnil]

end Generator

/-! ## Batches that fail -/

namespace Pool

/-- What is known of a pool after these attempts, whether the batch is over or not. -/
structure Reached (g : Generator) (threads : Nat) (attempts : List Attempt) (p : Pool) : Prop where
  width : p.workers.length = threads
  owners : ∀ a ∈ attempts, a.worker < threads
  /-- Every attempt is one generation, and nothing else happens to the generator. -/
  row : attempts.map Attempt.result = g.row attempts.length
  generator : p.generator = g.after attempts.length
  /-- The counter has moved on by all that was committed, by whomever. -/
  counter : p.generator.counter = ⟨g.counter.ceiling,
    if Attempt.successes attempts = 0 then g.counter.value
    else (g.counter.value + Attempt.successes attempts - 1) % (g.counter.ceiling + 1) + 1⟩

/-- What is known of a batch that is over. -/
structure Settled (threads perThread : Nat) (policy : RetryPolicy) (attempts : List Attempt)
    (p : Pool) (result : Except GenerationFault (List String)) : Prop where
  /-- Each worker performed its calls, and stopped only over one of its own. -/
  workers : ∀ i, i < threads → ∃ w, p.workers[i]? = some w ∧
    w.Ends perThread policy (Attempt.rowOf attempts i)
  fails_iff : (∃ fault, result = .error fault) ↔ ∃ w ∈ p.workers, w.stopped ≠ none
  /-- The fault is that of the first worker that stopped, in the order of the workers. -/
  fault_iff : ∀ fault, result = .error fault ↔ ∃ i, FirstStopped p.workers i fault

variable {g : Generator} {threads perThread : Nat} {policy : RetryPolicy} {fraction : Binary64}
  {schedule : List Nat} {result : Except GenerationFault (List String)}

theorem performing_run (perThread : Nat) (policy : RetryPolicy) (fraction : Binary64)
    (g : Generator) (threads : Nat) (schedule : List Nat) :
    Performing perThread policy threads
      ((start g threads).attempts perThread policy fraction schedule)
      ((start g threads).run perThread policy fraction schedule) := by
  have h := (performing_start perThread policy g threads).run fraction schedule
  rw [List.nil_append] at h
  exact h

theorem reached_run (sound : g.counter.Sound) (perThread : Nat) (policy : RetryPolicy)
    (fraction : Binary64) (threads : Nat) (schedule : List Nat) :
    Reached g threads ((start g threads).attempts perThread policy fraction schedule)
      ((start g threads).run perThread policy fraction schedule) := by
  have hperforming := performing_run perThread policy fraction g threads schedule
  obtain ⟨hgenerator, hrow⟩ :=
    attempts_eq_row perThread policy fraction (start g threads) schedule
  generalize (start g threads).attempts perThread policy fraction schedule = attempts at *
  generalize (start g threads).run perThread policy fraction schedule = p at *
  have hgenerator : p.generator = g.after attempts.length := hgenerator
  have hrow : attempts.map Attempt.result = g.row attempts.length := hrow
  refine ⟨hperforming.width, hperforming.owner_lt, hrow, hgenerator, ?_⟩
  rw [hgenerator, Generator.counter_after_eq sound, ← hrow]
  rfl

theorem idle_of_result {p : Pool} (h : p.result perThread = some result) :
    (∀ w ∈ p.workers, w.isBusy perThread = false) ∧ result = Worker.collect p.workers := by
  unfold Pool.result at h
  split at h
  · cases h
  · rename_i hidle
    refine ⟨fun w hw => ?_, (Option.some.inj h).symm⟩
    cases hbusy : w.isBusy perThread with
    | false => rfl
    | true => exact absurd (List.any_eq_true.mpr ⟨w, hw, hbusy⟩) hidle

theorem settled_run
    (h : ((start g threads).run perThread policy fraction schedule).result perThread =
      some result) :
    Settled threads perThread policy
      ((start g threads).attempts perThread policy fraction schedule)
      ((start g threads).run perThread policy fraction schedule) result := by
  have hperforming := performing_run perThread policy fraction g threads schedule
  obtain ⟨hidle, hcollect⟩ := idle_of_result h
  generalize (start g threads).attempts perThread policy fraction schedule = attempts at *
  generalize (start g threads).run perThread policy fraction schedule = p at *
  subst hcollect
  refine ⟨fun i hi => ?_, ?_, fun fault => collect_eq_error_iff⟩
  · obtain ⟨w, hw⟩ : ∃ w, p.workers[i]? = some w :=
      ⟨_, List.getElem?_eq_getElem (by rw [hperforming.width]; exact hi)⟩
    obtain ⟨rows, rest, hrow, hperformed⟩ := hperforming.performed i w hw
    refine ⟨w, hw, ?_⟩
    rw [hrow]
    exact hperformed.ends (hidle w (List.mem_of_getElem? hw))
  · constructor
    · rintro ⟨fault, hfault⟩
      obtain ⟨i, ⟨w, hw, hstopped⟩, -⟩ := collect_eq_error_iff.mp hfault
      exact ⟨w, List.mem_of_getElem? hw, by rw [hstopped]; exact Option.some_ne_none fault⟩
    · rintro ⟨w, hw, hstopped⟩
      cases hresult : Worker.collect p.workers with
      | error fault => exact ⟨fault, rfl⟩
      | ok identifiers => exact absurd (none_of_collect hresult w hw) hstopped

/-- A worker alone stopped at this fault: calls that returned, fewer than it was to make, then the
one that did not, and no generation after that. -/
def StopsAlone (perThread : Nat) (policy : RetryPolicy) (g g' : Generator)
    (fault : GenerationFault) : Prop :=
  ∃ (rows : List Row) (last : Row), rows.length < perThread ∧
    (∀ row ∈ rows, ∃ identifier, Call policy row (.ok identifier)) ∧
    Call policy last (.error fault) ∧
    rows.flatten ++ last = g.row (rows.flatten ++ last).length ∧
    g' = g.after (rows.flatten ++ last).length

theorem stopsAlone_run {fault : GenerationFault}
    (h : ((start g 1).run perThread policy fraction schedule).result perThread =
      some (.error fault)) :
    StopsAlone perThread policy g
      ((start g 1).run perThread policy fraction schedule).generator fault := by
  have hperforming := performing_run perThread policy fraction g 1 schedule
  have hsettled := settled_run h
  obtain ⟨hgenerator, hrow⟩ := attempts_eq_row perThread policy fraction (start g 1) schedule
  generalize (start g 1).attempts perThread policy fraction schedule = attempts at *
  generalize (start g 1).run perThread policy fraction schedule = p at *
  have hgenerator : p.generator = g.after attempts.length := hgenerator
  have hrow : attempts.map Attempt.result = g.row attempts.length := hrow
  -- All attempts are those of the one worker.
  have hall : Attempt.rowOf attempts 0 = attempts.map Attempt.result := by
    unfold Attempt.rowOf
    rw [List.filter_eq_self.mpr]
    intro a ha
    have hlt := hperforming.owner_lt a ha
    exact decide_eq_true (by omega)
  obtain ⟨i, ⟨w, hw, hstopped⟩, -⟩ := (hsettled.fault_iff fault).mp rfl
  have hi : i = 0 := by
    have hlt := (List.getElem?_eq_some_iff.mp hw).1
    rw [hperforming.width] at hlt
    omega
  subst hi
  obtain ⟨w', hw', hends⟩ := hsettled.workers 0 Nat.one_pos
  obtain rfl : w = w' := by
    rw [hw] at hw'
    exact Option.some.inj hw'
  cases hends with
  | whole rows row_eq returned length_eq running =>
    rw [hstopped] at running
    cases running
  | stops rows last other row_eq returned length_lt raised stopped =>
    rw [hstopped] at stopped
    cases stopped
    rw [hall] at row_eq
    have hlength : (rows.flatten ++ last).length = attempts.length := by
      rw [← row_eq, List.length_map]
    refine ⟨rows, last, by rw [returned.length_eq]; exact length_lt, ?_, raised, ?_, ?_⟩
    · have heach : List.Forall₂ (fun row identifier =>
          (∃ made, Call policy row (.ok made)) ∧ Call policy row (.ok identifier)) rows w.made :=
        returned.imp fun row identifier hcall => ⟨⟨identifier, hcall⟩, hcall⟩
      exact ((List.forall₂_and_left _ _).mp heach).1
    · rw [hlength, ← hrow, row_eq]
    · rw [hlength]
      exact hgenerator

end Pool

/-- **Batches that fail.** A batch that is asked for too little is refused and touches nothing. Any
other is a batch under a schedule, the one given if that ends it. Under every schedule the attempts
are generations in a row, and the counter has moved on by all that were committed. When the batch is
over each worker has performed all its calls or stopped at the first that did not return, and if one
stopped the batch fails with the fault of the first of them in the order of the workers. A single
worker attempts nothing after the call at which it stops. A call without other workers between its
attempts is a `Call` too. -/
theorem batch_failing {g : Generator} (sound : g.counter.Sound) (threads perThread : Int)
    (policy : RetryPolicy) (fraction : Binary64) :
    (threads < 1 ∨ perThread < 1 → ∀ turns, ∃ fault, fault.kind = .config ∧
      g.generateBatchIn turns threads perThread policy fraction =
        { result := .error fault, generator := g, notices := [], waits := [] }) ∧
    (1 ≤ threads → 1 ≤ perThread →
      (∀ schedule,
        let first := Pool.start g threads.toNat
        let p := first.run perThread.toNat policy fraction schedule
        let attempts := first.attempts perThread.toNat policy fraction schedule
        Pool.Reached g threads.toNat attempts p ∧
          ∀ result, p.result perThread.toNat = some result →
            Pool.Settled threads.toNat perThread.toNat policy attempts p result) ∧
      ∀ turns, ∃ schedule result,
        let p := (Pool.start g threads.toNat).run perThread.toNat policy fraction schedule
        p.result perThread.toNat = some result ∧
        g.generateBatchIn turns threads perThread policy fraction =
          { result := result.mapError .generation
            generator := p.generator
            notices := p.notices
            waits := p.waits } ∧
        (((Pool.start g threads.toNat).run perThread.toNat policy fraction turns).result
          perThread.toNat ≠ none → schedule = turns)) ∧
    (1 ≤ perThread → ∀ turns fault,
      (g.generateBatchIn turns 1 perThread policy fraction).result =
        .error (.generation fault) →
      Pool.StopsAlone perThread.toNat policy g
        (g.generateBatchIn turns 1 perThread policy fraction).generator fault) ∧
    ∀ g' : Generator, ∃ n,
      Call policy (g'.row n) (g'.generateWithRetry policy fraction).result ∧
        (g'.generateWithRetry policy fraction).generator = g'.after n := by
  refine ⟨?_, fun hthreads hper => ⟨fun schedule => ?_, fun turns => ?_⟩,
    fun hper turns fault hfault => ?_, fun g' => g'.call_generateWithRetry policy fraction⟩
  · intro hlow turns
    exact g.generateBatchIn_eq_of_lt turns policy fraction hlow
  · exact ⟨Pool.reached_run sound _ policy fraction _ schedule, fun result => Pool.settled_run⟩
  · exact g.generateBatchIn_eq_run turns policy fraction hthreads hper
  · obtain ⟨schedule, result, hresult, heq, -⟩ :=
      g.generateBatchIn_eq_run turns policy fraction (Int.le_refl 1) hper
    rw [heq] at hfault ⊢
    obtain ⟨reason, rfl, hreason⟩ := Stage.mapError_eq_error_iff.mp hfault
    cases hreason
    exact Pool.stopsAlone_run hresult

/-- Three workers on a counter that waits at one above its ceiling. The second worker fails first
and the first one later, after a commit; the third makes its whole part after that. The batch fails
with the fault of the first, and all three commits count. Alone, a worker stops at the first
fault. -/
theorem batch_failing_late :
    let m : Moment := ⟨.mk 2026 7 17, .mk 12 0 0 0, none⟩
    let draws : RandomSource := .scripted ⟨.raised "early", [.value (.int 100000),
      .raised "late", .value (.int 100001), .value (.int 100002)]⟩
    let g : Generator := ⟨⟨1, 2⟩, Sources.new ⟨.reading m, []⟩ draws⟩
    let policy : RetryPolicy := ⟨1, .int 0, .int 0⟩
    let first := Pool.start g 3
    let p := first.run 2 policy .zero [1, 0, 0, 2, 2]
    let attempts := first.attempts 2 policy .zero [1, 0, 0, 2, 2]
    let alone := g.generateBatchIn [] 1 2 policy .zero
    g.counter.Sound ∧
      (∃ fault, fault.message = "Random source unavailable: late" ∧
        p.result 2 = some (.error fault) ∧ Pool.Settled 3 2 policy attempts p (.error fault)) ∧
      p.generator.counter = ⟨1, 1⟩ ∧
      ∃ fault, fault.message = "Random source unavailable: early" ∧
        alone.result = .error (.generation fault) ∧
        Pool.StopsAlone 2 policy g alone.generator fault := by
  intro m draws g policy first p attempts alone
  have sound : g.counter.Sound := by decide
  have hmessage : (p.result 2).map (·.mapError GenerationFault.message) =
      some (.error "Random source unavailable: late") := by
    decide +kernel
  have hcommits : Attempt.successes attempts = 3 := by decide +kernel
  have halone : alone.result.mapError Batch.Fault.message =
      .error "Random source unavailable: early" := by
    decide +kernel
  obtain ⟨-, hbatch, hsingle, -⟩ := batch_failing sound 3 2 policy .zero
  obtain ⟨hreached, hsettled⟩ : Pool.Reached g 3 attempts p ∧ ∀ result,
      p.result 2 = some result → Pool.Settled 3 2 policy attempts p result :=
    (hbatch (by decide) (by decide)).1 [1, 0, 0, 2, 2]
  obtain ⟨result, hresult, hmapped⟩ := Option.map_eq_some_iff.mp hmessage
  obtain ⟨fault, rfl, hfault⟩ := Stage.mapError_eq_error_iff.mp hmapped
  refine ⟨sound, ⟨fault, hfault, hresult, hsettled _ hresult⟩, ?_, ?_⟩
  · have hcounter := hreached.counter
    rw [hcommits] at hcounter
    exact hcounter.trans (by decide)
  · obtain ⟨reason, hreason, hmessage'⟩ := Stage.mapError_eq_error_iff.mp halone
    obtain ⟨fault', rfl⟩ := Generator.generateBatchIn_eq_error (by decide) (by decide) hreason
    exact ⟨fault', hmessage', hreason, hsingle (by decide) [] fault' hreason⟩

end Sequencer

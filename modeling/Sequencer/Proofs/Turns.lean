import Sequencer.Proofs.Conservation

/-!
# Turns of the workers of a batch

What a schedule makes of a batch. `Turn` lists all that one turn can do. The commits, one for each
attempt that succeeds, are the account that runs beside the pool: in their order they are the
successes of so many generations in a row (`commits_eq_successes`), and each worker has made what
it committed, in that order (`Kept`). Each turn keeps that, and so does a schedule. A batch that
is over gives the workers' commits block by block (`Kept.of_result`), and a schedule that gives
each worker enough turns ends the batch (`over_of_count`).
-/

namespace Sequencer

theorem RetryPolicy.attempts_pos (policy : RetryPolicy) : 0 < policy.attempts := by
  unfold attempts
  omega

theorem Worker.isBusy_iff {perThread : Nat} {w : Worker} :
    w.isBusy perThread = true ↔ w.stopped = none ∧ w.made.length < perThread := by
  simp [isBusy]

/-! ## Commits -/

/-- An attempt that succeeded: whose it was and what it made. -/
structure Commit where
  worker : Nat
  entry : Entry

namespace Commit

/-- The identifier that was committed. -/
def identifier (c : Commit) : String := c.entry.identifier

/-- The identifiers of one worker among those committed, in order. -/
def madeBy (commits : List Commit) (i : Nat) : List String :=
  (commits.filter (·.worker = i)).map identifier

theorem madeBy_append (first second : List Commit) (i : Nat) :
    madeBy (first ++ second) i = madeBy first i ++ madeBy second i := by
  rw [madeBy, List.filter_append, List.map_append]
  rfl

theorem madeBy_self (i : Nat) (e : Entry) : madeBy [⟨i, e⟩] i = [e.identifier] := by
  simp [madeBy, identifier]

end Commit

namespace Pool

/-- The commit of a worker's turn: there is one if the worker is busy and its attempt succeeds. -/
def commit? (perThread : Nat) (p : Pool) (i : Nat) : Option Commit :=
  match p.workers[i]? with
  | none => none
  | some w => if w.isBusy perThread then p.generator.entry?.map (Commit.mk i) else none

/-- The commits of a schedule, in order. -/
def commits (perThread : Nat) (policy : RetryPolicy) (fraction : Binary64) (p : Pool) :
    List Nat → List Commit
  | [] => []
  | i :: rest =>
    (p.commit? perThread i).toList ++
      (p.turn perThread policy fraction i).commits perThread policy fraction rest

/-! ## What one turn does -/

/-- The pool after an attempt of a worker. -/
def attempted (policy : RetryPolicy) (fraction : Binary64) (p : Pool) (i : Nat) (w : Worker) :
    Pool where
  generator := p.generator.generate.generator
  workers := p.workers.set i (w.after policy p.generator.generate.result)
  notices := p.notices ++ p.generator.generate.notices
  waits := p.waits ++ w.waits policy fraction p.generator.generate.result

/-- What a turn can do, and the commit that comes of it. -/
inductive Turn (perThread : Nat) (policy : RetryPolicy) (fraction : Binary64) (p : Pool)
    (i : Nat) : Pool → Option Commit → Prop
  /-- There is no such worker, or it is done. -/
  | passes (why : ∀ w, p.workers[i]? = some w → w.isBusy perThread = false) :
      Turn perThread policy fraction p i p none
  | attempts {w : Worker} (found : p.workers[i]? = some w) (busy : w.isBusy perThread = true) :
      Turn perThread policy fraction p i (p.attempted policy fraction i w)
        (p.generator.entry?.map (Commit.mk i))

variable {perThread : Nat} {policy : RetryPolicy} {fraction : Binary64} {p : Pool}

theorem turn_cases (perThread : Nat) (policy : RetryPolicy) (fraction : Binary64) (p : Pool)
    (i : Nat) :
    Turn perThread policy fraction p i (p.turn perThread policy fraction i)
      (p.commit? perThread i) := by
  unfold turn commit?
  cases found : p.workers[i]? with
  | none =>
    refine .passes fun w h => ?_
    rw [found] at h
    cases h
  | some w =>
    dsimp only
    cases busy : w.isBusy perThread with
    | false =>
      refine .passes fun u h => ?_
      rw [found] at h
      cases h
      exact busy
    | true => exact .attempts found busy

/-- The commits of a schedule are the successes of so many generations in a row. -/
theorem commits_eq_successes (perThread : Nat) (policy : RetryPolicy) (fraction : Binary64)
    (p : Pool) (schedule : List Nat) :
    ∃ n, (p.run perThread policy fraction schedule).generator = p.generator.after n ∧
      (p.commits perThread policy fraction schedule).map Commit.entry =
        p.generator.successes n := by
  -- On the schedule, for every pool: the first turn moves the generator that the others start from.
  induction schedule generalizing p with
  | nil => exact ⟨0, rfl, rfl⟩
  | cons i rest ih =>
    obtain ⟨n, hgenerator, hcommits⟩ := ih (p.turn perThread policy fraction i)
    have hturn := turn_cases perThread policy fraction p i
    rw [commits, List.map_append, hcommits]
    show ∃ n, ((p.turn perThread policy fraction i).run perThread policy fraction rest).generator =
      _ ∧ _
    rw [hgenerator]
    generalize p.turn perThread policy fraction i = p', p.commit? perThread i = commit at hturn ⊢
    cases hturn with
    | passes why => exact ⟨n, rfl, rfl⟩
    | attempts found busy =>
      refine ⟨n + 1, rfl, ?_⟩
      rw [Generator.successes]
      cases p.generator.entry? with
      | none => rfl
      | some e => rfl

/-! ## What the workers made -/

/-- A worker has made what it committed, and no more than its part. -/
structure Records (perThread : Nat) (policy : RetryPolicy) (commits : List Commit) (i : Nat)
    (w : Worker) : Prop where
  made : w.made = Commit.madeBy commits i
  made_le : w.made.length ≤ perThread
  failures_lt : w.failures < policy.attempts

/-- So many workers, all of whom have made what they committed, and no one else committed. -/
structure Kept (perThread : Nat) (policy : RetryPolicy) (threads : Nat) (commits : List Commit)
    (p : Pool) : Prop where
  width : p.workers.length = threads
  records : ∀ (i : Nat) (w : Worker), p.workers[i]? = some w →
    Records perThread policy commits i w
  owner_lt : ∀ c ∈ commits, c.worker < threads

theorem kept_start (perThread : Nat) (policy : RetryPolicy) (g : Generator) (threads : Nat) :
    Kept perThread policy threads [] (start g threads) where
  width := List.length_replicate
  records i w h := by
    obtain rfl := List.eq_of_mem_replicate (List.mem_of_getElem? h)
    exact ⟨rfl, Nat.zero_le _, policy.attempts_pos⟩
  owner_lt c h := by cases h

namespace Records

variable {commits : List Commit} {i : Nat} {w : Worker}

theorem frame (h : Records perThread policy commits i w) {extra : List Commit}
    (others : ∀ c ∈ extra, c.worker ≠ i) :
    Records perThread policy (commits ++ extra) i w where
  made := by
    have hnone : extra.filter (·.worker = i) = [] := by
      simpa [List.filter_eq_nil_iff] using others
    rw [Commit.madeBy_append, h.made, Commit.madeBy, Commit.madeBy, hnone, List.map_nil,
      List.append_nil]
  made_le := h.made_le
  failures_lt := h.failures_lt

theorem succeeds (h : Records perThread policy commits i w) (busy : w.isBusy perThread = true)
    {e : Entry} :
    Records perThread policy (commits ++ [⟨i, e⟩]) i
      (w.after policy (.ok e.identifier)) where
  made := by
    rw [Commit.madeBy_append, Commit.madeBy_self, ← h.made]
    rfl
  made_le := by
    have hlt := (Worker.isBusy_iff.mp busy).2
    simp only [Worker.after, List.length_append, List.length_singleton]
    omega
  failures_lt := policy.attempts_pos

theorem fails (h : Records perThread policy commits i w) (fault : GenerationFault) :
    Records perThread policy commits i (w.after policy (.error fault)) := by
  unfold Worker.after Worker.triesAgain
  dsimp only
  split
  · rename_i again
    simp only [Bool.and_eq_true, decide_eq_true_eq] at again
    exact ⟨h.made, h.made_le, again.2⟩
  · exact ⟨h.made, h.made_le, h.failures_lt⟩

end Records

namespace Kept

variable {threads : Nat} {commits : List Commit}

theorem put (h : Kept perThread policy threads commits p) {i : Nat} {w : Worker} (w' : Worker)
    {extra : List Commit} (found : p.workers[i]? = some w)
    (mine : Records perThread policy (commits ++ extra) i w')
    (owner : ∀ c ∈ extra, c.worker = i) (generator : Generator) (notices : List Notice)
    (waits : List Number) :
    Kept perThread policy threads (commits ++ extra)
      ⟨generator, p.workers.set i w', notices, waits⟩ where
  width := by rw [List.length_set, h.width]
  records j u hu := by
    -- The worker whose turn it was answers for itself; the others committed nothing.
    rw [List.getElem?_set] at hu
    split at hu
    · rename_i hij
      subst hij
      split at hu
      · cases hu
        exact mine
      · cases hu
    · rename_i hij
      refine (h.records j u hu).frame fun c hc => ?_
      rw [owner c hc]
      exact hij
  owner_lt c hc := by
    rcases List.mem_append.mp hc with hold | hnew
    · exact h.owner_lt c hold
    · rw [owner c hnew, ← h.width]
      exact (List.getElem?_eq_some_iff.mp found).1

theorem turn (h : Kept perThread policy threads commits p) (fraction : Binary64) (i : Nat) :
    Kept perThread policy threads (commits ++ (p.commit? perThread i).toList)
      (p.turn perThread policy fraction i) := by
  have hturn := turn_cases perThread policy fraction p i
  generalize p.turn perThread policy fraction i = p', p.commit? perThread i = commit at hturn ⊢
  cases hturn with
  | passes why =>
    rw [Option.toList_none, List.append_nil]
    exact h
  | @attempts w found busy =>
    have hmine := h.records i w found
    unfold attempted Generator.entry?
    cases p.generator.generate.result with
    | error fault =>
      refine h.put _ found ?_ (by simp) _ _ _
      rw [Option.map_none, Option.toList_none, List.append_nil]
      exact hmine.fails fault
    | ok identifier => exact h.put _ found (hmine.succeeds busy) (by simp) _ _ _

theorem run (h : Kept perThread policy threads commits p) (fraction : Binary64)
    (schedule : List Nat) :
    Kept perThread policy threads (commits ++ p.commits perThread policy fraction schedule)
      (p.run perThread policy fraction schedule) := by
  induction schedule generalizing p commits with
  | nil =>
    rw [Pool.commits, List.append_nil]
    exact h
  | cons i rest ih =>
    rw [Pool.commits, ← List.append_assoc]
    exact ih (h.turn fraction i)

end Kept

/-! ## What a batch that is over gives -/

theorem collect_of_none {workers : List Worker} (h : ∀ w ∈ workers, w.stopped = none) :
    Worker.collect workers = .ok (workers.map Worker.made).flatten := by
  induction workers with
  | nil => rfl
  | cons w rest ih =>
    rw [Worker.collect, h w List.mem_cons_self,
      ih fun u hu => h u (List.mem_cons_of_mem w hu)]
    rfl

theorem none_of_collect {workers : List Worker} {identifiers : List String}
    (h : Worker.collect workers = .ok identifiers) : ∀ w ∈ workers, w.stopped = none := by
  induction workers generalizing identifiers with
  | nil => simp
  | cons w rest ih =>
    rw [Worker.collect] at h
    cases hstopped : w.stopped with
    | some fault =>
      rw [hstopped] at h
      cases h
    | none =>
      rw [hstopped] at h
      cases hrest : Worker.collect rest with
      | error fault =>
        rw [hrest] at h
        cases h
      | ok later =>
        intro u hu
        rcases List.mem_cons.mp hu with rfl | hlater
        · exact hstopped
        · exact ih hrest u hlater

/-- A batch that delivers gives the commits of its workers block by block, and each worker made
its whole part. -/
theorem Kept.of_result {threads : Nat} {commits : List Commit} {identifiers : List String}
    (h : Kept perThread policy threads commits p)
    (hr : p.result perThread = some (.ok identifiers)) :
    identifiers = ((List.range threads).map (Commit.madeBy commits)).flatten ∧
      ∀ i, i < threads → (Commit.madeBy commits i).length = perThread := by
  unfold result at hr
  split at hr
  · cases hr
  · rename_i hidle
    have hcollect := Option.some.inj hr
    have hstopped := none_of_collect hcollect
    rw [collect_of_none hstopped] at hcollect
    cases hcollect
    constructor
    · congr 1
      apply List.ext_getElem
      · simp [h.width]
      · intro i hi hi'
        rw [List.length_map] at hi
        have hrec := h.records i p.workers[i] (List.getElem?_eq_getElem hi)
        simp [hrec.made]
    · intro i hi
      obtain ⟨w, hget⟩ : ∃ w, p.workers[i]? = some w :=
        ⟨_, List.getElem?_eq_getElem (by rw [h.width]; exact hi)⟩
      have hrec := h.records i w hget
      have hmem := List.mem_of_getElem? hget
      have hdone : ¬ w.made.length < perThread := by
        intro hlt
        apply hidle
        rw [List.any_eq_true]
        exact ⟨w, hmem, Worker.isBusy_iff.mpr ⟨hstopped w hmem, hlt⟩⟩
      have hle := hrec.made_le
      rw [← hrec.made]
      omega

theorem take_drop_flatten {α : Type} {lists : List (List α)} {n i : Nat} {l : List α}
    (h : ∀ l' ∈ lists, l'.length = n) (hi : lists[i]? = some l) :
    (lists.flatten.drop (i * n)).take n = l := by
  induction lists generalizing i with
  | nil => cases hi
  | cons first rest ih =>
    have hfirst := h first List.mem_cons_self
    rw [List.flatten_cons]
    cases i with
    | zero =>
      obtain rfl : first = l := Option.some.inj hi
      rw [Nat.zero_mul, List.drop_zero, List.take_left' hfirst]
    | succ i =>
      have hskip : (i + 1) * n = first.length + i * n := by
        rw [hfirst, Nat.succ_mul, Nat.add_comm]
      rw [hskip, List.drop_length_add_append]
      exact ih (fun l' hl' => h l' (List.mem_cons_of_mem first hl')) hi

/-- The blocks of the workers are the commits, in another order. -/
theorem perm_blocks (commits : List Commit) (threads : Nat) :
    ((List.range threads).map (Commit.madeBy commits)).flatten.Perm
      ((commits.filter (·.worker < threads)).map Commit.identifier) := by
  induction threads with
  | zero => simp
  | succ threads ih =>
    have hsplit := List.filter_append_perm (fun c : Commit => decide (c.worker < threads))
      (commits.filter (·.worker < threads + 1))
    rw [List.filter_filter, List.filter_filter] at hsplit
    have hbelow : commits.filter (fun c => decide (c.worker < threads) &&
        decide (c.worker < threads + 1)) = commits.filter (·.worker < threads) := by
      refine List.filter_congr fun c _ => ?_
      rw [← Bool.decide_and, decide_eq_decide]
      omega
    have hlast : commits.filter (fun c => !decide (c.worker < threads) &&
        decide (c.worker < threads + 1)) = commits.filter (·.worker = threads) := by
      refine List.filter_congr fun c _ => ?_
      rw [← decide_not, ← Bool.decide_and, decide_eq_decide]
      omega
    rw [hbelow, hlast] at hsplit
    rw [List.range_succ, List.map_append, List.flatten_append]
    refine (ih.append_right _).trans ?_
    simpa [Commit.madeBy] using hsplit.map Commit.identifier

namespace Kept

variable {threads : Nat} {commits : List Commit} {identifiers : List String}

theorem perm_of_result (h : Kept perThread policy threads commits p)
    (hr : p.result perThread = some (.ok identifiers)) :
    identifiers.Perm (commits.map Commit.identifier) := by
  have hperm := perm_blocks commits threads
  have hall : commits.filter (·.worker < threads) = commits :=
    List.filter_eq_self.mpr fun c hc => decide_eq_true (h.owner_lt c hc)
  rw [hall] at hperm
  rw [(h.of_result hr).1]
  exact hperm

theorem length_of_result (h : Kept perThread policy threads commits p)
    (hr : p.result perThread = some (.ok identifiers)) :
    identifiers.length = threads * perThread := by
  obtain ⟨rfl, hwhole⟩ := h.of_result hr
  have hlengths : ((List.range threads).map (Commit.madeBy commits)).map List.length =
      List.replicate threads perThread := by
    rw [List.eq_replicate_iff]
    refine ⟨by simp, ?_⟩
    simpa using hwhole
  rw [List.length_flatten, hlengths, List.sum_replicate_nat]

theorem block_of_result (h : Kept perThread policy threads commits p)
    (hr : p.result perThread = some (.ok identifiers)) {i : Nat} (hi : i < threads) :
    (identifiers.drop (i * perThread)).take perThread = Commit.madeBy commits i := by
  obtain ⟨rfl, hwhole⟩ := h.of_result hr
  -- All parts have one length, so each can be cut out of the whole again.
  apply take_drop_flatten
  · simpa using hwhole
  · simp [hi]

end Kept

/-! ## Every batch ends -/

/-- How many attempts a worker has left at most. -/
def left (perThread : Nat) (policy : RetryPolicy) (w : Worker) : Nat :=
  (perThread - w.made.length) * policy.attempts - w.failures

/-- A busy worker has an attempt left. -/
theorem attempts_le_left {commits : List Commit} {i : Nat} {w : Worker}
    (h : Records perThread policy commits i w) (busy : w.isBusy perThread = true) :
    policy.attempts ≤ left perThread policy w + w.failures := by
  have hlt := (Worker.isBusy_iff.mp busy).2
  have hpart : 1 * policy.attempts ≤ (perThread - w.made.length) * policy.attempts :=
    Nat.mul_le_mul_right _ (by omega)
  have hfailures := h.failures_lt
  unfold left
  omega

/-- An attempt uses one up, unless the worker is done after it. -/
theorem left_after {commits : List Commit} {i : Nat} {w : Worker}
    (h : Records perThread policy commits i w) (busy : w.isBusy perThread = true)
    (result : Except GenerationFault String) :
    (w.after policy result).isBusy perThread = false ∨
      left perThread policy (w.after policy result) + 1 ≤ left perThread policy w := by
  have hleft := attempts_le_left h busy
  have hfailures := h.failures_lt
  cases result with
  | ok identifier =>
    -- One identifier less, and with it all attempts at it.
    have hlt := (Worker.isBusy_iff.mp busy).2
    have hpart : (perThread - w.made.length) * policy.attempts =
        (perThread - (w.made.length + 1)) * policy.attempts + policy.attempts := by
      rw [← Nat.succ_mul]
      congr 1
      omega
    right
    simp only [left, Worker.after, List.length_append, List.length_singleton]
    omega
  | error fault =>
    unfold Worker.after
    dsimp only
    split
    · right
      simp only [left] at hleft ⊢
      omega
    · left
      simp [Worker.isBusy]

theorem Kept.left_turn {threads : Nat} {commits : List Commit}
    (h : Kept perThread policy threads commits p) (fraction : Binary64) (j : Nat) {i : Nat}
    {w : Worker} (found : p.workers[i]? = some w) :
    ∃ w', (p.turn perThread policy fraction j).workers[i]? = some w' ∧
      (w'.isBusy perThread = false ∨
        left perThread policy w' + (if j = i then 1 else 0) ≤ left perThread policy w) := by
  have hturn := turn_cases perThread policy fraction p j
  generalize p.turn perThread policy fraction j = p', p.commit? perThread j = commit at hturn ⊢
  cases hturn with
  | passes why =>
    by_cases hji : j = i
    · subst hji
      exact ⟨w, found, .inl (why w found)⟩
    · exact ⟨w, found, .inr (by simp [hji])⟩
  | @attempts u hu busy =>
    by_cases hji : j = i
    · subst hji
      rw [hu] at found
      cases found
      have hlt := (List.getElem?_eq_some_iff.mp hu).1
      refine ⟨_, List.getElem?_set_self hlt, ?_⟩
      rw [if_pos rfl]
      exact left_after (h.records _ _ hu) busy _
    · refine ⟨w, ?_, .inr (by simp [hji])⟩
      rw [attempted, List.getElem?_set_ne hji]
      exact found

theorem run_done (schedule : List Nat) {i : Nat} {w : Worker} (found : p.workers[i]? = some w)
    (done : w.isBusy perThread = false) :
    (p.run perThread policy fraction schedule).workers[i]? = some w := by
  induction schedule generalizing p with
  | nil => exact found
  | cons j rest ih =>
    refine ih (p := p.turn perThread policy fraction j) ?_
    have hturn := turn_cases perThread policy fraction p j
    generalize p.turn perThread policy fraction j = p', p.commit? perThread j = commit at hturn ⊢
    cases hturn with
    | passes why => exact found
    | @attempts u hu busy =>
      have hji : j ≠ i := by
        rintro rfl
        rw [hu] at found
        cases found
        rw [busy] at done
        cases done
      rw [attempted, List.getElem?_set_ne hji]
      exact found

/-- After its turns a worker is done, or has so many attempts less. -/
theorem Kept.left_run {threads : Nat} {commits : List Commit}
    (h : Kept perThread policy threads commits p) (fraction : Binary64) (schedule : List Nat)
    {i : Nat} {w : Worker} (found : p.workers[i]? = some w) :
    ∃ w', (p.run perThread policy fraction schedule).workers[i]? = some w' ∧
      (w'.isBusy perThread = false ∨
        left perThread policy w' + schedule.count i ≤ left perThread policy w) := by
  induction schedule generalizing p commits w with
  | nil => exact ⟨w, found, .inr (Nat.le_refl _)⟩
  | cons j rest ih =>
    obtain ⟨w', hw', hleft⟩ := h.left_turn fraction j found
    rcases hleft with done | hleft
    · exact ⟨w', run_done rest hw' done, .inl done⟩
    · obtain ⟨w'', hw'', hlast⟩ := ih (h.turn fraction j) hw'
      refine ⟨w'', hw'', hlast.imp_right fun hle => ?_⟩
      rw [List.count_cons]
      simp only [beq_iff_eq]
      omega

/-- A schedule that gives each worker as many turns as it may make attempts ends the batch. -/
theorem over_of_count {g : Generator} {threads : Nat} {schedule : List Nat}
    (h : ∀ i, i < threads → perThread * policy.attempts ≤ schedule.count i) :
    ((start g threads).run perThread policy fraction schedule).result perThread ≠ none := by
  have hstart := kept_start perThread policy g threads
  have hrun := hstart.run fraction schedule
  unfold result
  rw [if_neg]
  · simp
  · rw [List.any_eq_true]
    rintro ⟨w, hmem, busy⟩
    obtain ⟨i, hi⟩ := List.mem_iff_getElem?.mp hmem
    have hlt : i < threads := by
      rw [← hrun.width]
      exact (List.getElem?_eq_some_iff.mp hi).1
    have hfresh : (start g threads).workers[i]? = some .fresh :=
      List.getElem?_replicate_of_lt hlt
    obtain ⟨w', hw', hleft⟩ := hstart.left_run fraction schedule hfresh
    rw [hi] at hw'
    cases hw'
    rcases hleft with done | hleft
    · rw [done] at busy
      cases busy
    · -- A busy worker would have an attempt left after all its turns.
      have hrec := hrun.records i w hi
      have hpos := attempts_le_left hrec busy
      have hfailures := hrec.failures_lt
      have hcount := h i hlt
      have hall : left perThread policy .fresh = perThread * policy.attempts := by
        simp [left, Worker.fresh]
      omega

end Pool

end Sequencer

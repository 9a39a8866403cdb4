import Sequencer.Proofs.Workers

/-!
# Batches lose nothing and duplicate nothing

A batch that delivers, under whatever schedule, gives exactly what its workers committed, each
worker's part in one block and in the order of its commits, and the counter has moved on by as
many values (`Lossless`). If clock and random source never fail, every attempt commits
(`length_successes`), so the schedule decides only who makes which identifier: all batches of so
many identifiers deliver the same ones, in some order, and leave the same generator.
-/

namespace Sequencer

open Identifier (counterPart counterSegment)

/-! ## So many generations of a sound counter -/

namespace Generator

variable {g : Generator}

/-- So many generations of a sound counter, as a ledger that balances. -/
theorem exists_balanced (sound : g.counter.Sound) (n : Nat) :
    ∃ l : Ledger, l.Balanced g.counter.ceiling ∧ l.base = g.counter.value ∧
      l.entries = g.successes n ∧ l.generator = g.after n := by
  obtain ⟨hbase, hentries⟩ := (Ledger.opened g).run_successes n
  obtain ⟨hgenerator, -⟩ := (Ledger.opened g).run_generations n
  exact ⟨_, (Ledger.balanced_of_sound sound).run (List.replicate n .generate), hbase, hentries,
    hgenerator⟩

/-- The counter segments of the successes follow one another. -/
theorem segments_successes (sound : g.counter.Sound) (n : Nat) :
    (g.successes n).map (fun e => counterPart g.counter.ceiling e.identifier) =
      (List.range (g.successes n).length).map fun k : Nat =>
        counterSegment ((g.counter.value + k) % (g.counter.ceiling + 1)) g.counter.ceiling := by
  obtain ⟨l, hbalanced, hbase, hentries, -⟩ := exists_balanced sound n
  have hsegments := hbalanced.conserved.segments
  rw [hbase, hentries] at hsegments
  apply List.ext_getElem
  · simp
  · intro k hk hk'
    rw [List.length_map] at hk
    rw [List.getElem_map, List.getElem_map, List.getElem_range]
    exact hsegments k _ (List.getElem?_eq_getElem hk)

/-- The counter after so many generations, if they did not all fail. -/
theorem counter_after (sound : g.counter.Sound) {n : Nat} (hne : g.successes n ≠ []) :
    (g.after n).counter = ⟨g.counter.ceiling,
      (g.counter.value + (g.successes n).length - 1) % (g.counter.ceiling + 1) + 1⟩ := by
  obtain ⟨l, hbalanced, hbase, hentries, hgenerator⟩ := exists_balanced sound n
  have hpos := hbalanced.ceiling_pos
  have hhigh := hbalanced.value_range.2
  have hmoved := hbalanced.moved (by rw [hentries]; exact hne)
  -- One less than the total is one less than the value, and whole rounds.
  have htotal : g.counter.value + (g.successes n).length - 1 =
      (l.value - 1) + l.resets * (g.counter.ceiling + 1) := by
    have hbalance := hbalanced.balance
    rw [hbase, hentries] at hbalance
    omega
  rw [← hgenerator, hbalanced.counter_eq, htotal, Int.add_mul_emod_self_right,
    Int.emod_eq_of_lt (by omega) (by omega), Int.sub_add_cancel]

theorem sound_generate (sound : g.counter.Sound) : g.generate.generator.counter.Sound := by
  obtain ⟨l, hbalanced, -, -, hgenerator⟩ := exists_balanced sound 1
  have hcounter : g.generate.generator.counter = ⟨g.counter.ceiling, l.value⟩ := by
    rw [← hbalanced.counter_eq, hgenerator]
    rfl
  rw [hcounter]
  exact ⟨hbalanced.ceiling_pos, hbalanced.value_range⟩

end Generator

/-! ## Sources that never fail -/

/-- All answers of the script are good. -/
def Script.All {α : Type} (good : α → Prop) (s : Script α) : Prop :=
  good s.first ∧ ∀ a ∈ s.rest, good a

theorem Script.All.next {α : Type} {good : α → Prop} {s : Script α} (h : s.All good) :
    good s.next.1 ∧ s.next.2.All good := by
  unfold Script.next
  cases hrest : s.rest with
  | nil => exact ⟨h.1, h⟩
  | cons a rest =>
    refine ⟨h.1, h.2 a (by simp [hrest]), fun b hb => h.2 b ?_⟩
    rw [hrest]
    exact List.mem_cons_of_mem a hb

/-- The random source always gives a suffix; a seeded one does so by itself. -/
def RandomSource.NeverFails : RandomSource → Prop
  | scripted answers => answers.All DrawAnswer.IsSuffix
  | seeded _ => True

theorem RandomSource.NeverFails.next {r : RandomSource} (h : r.NeverFails) :
    r.next.1.IsSuffix ∧ r.next.2.NeverFails := by
  cases r with
  | scripted answers => exact Script.All.next h
  | seeded state =>
    have hlt := Random.Twister.below_lt (by decide : 0 < suffixMax - suffixMin + 1) state drawLimit
    have hnext : (seeded state).next.1 = .value (.int
        (suffixMin + (state.below (suffixMax - suffixMin + 1) drawLimit).1 : Nat)) := rfl
    refine ⟨⟨_, hnext, ?_⟩, trivial⟩
    unfold suffixMin suffixMax at hlt ⊢
    omega

namespace Generator

variable {g : Generator}

/-- Whatever was generated before, the clock shows a moment that renders and the random source
gives a suffix. -/
def NeverFails (g : Generator) : Prop :=
  ∀ n, (g.after n).reading.Renders ∧ (g.after n).answer.IsSuffix

theorem neverFails_of_sources (hclock : g.sources.clock.All ClockAnswer.Renders)
    (hrandom : g.sources.random.NeverFails) : g.NeverFails := by
  intro n
  induction n generalizing g with
  | zero => exact ⟨hclock.next.1, hrandom.next.1⟩
  | succ n ih =>
    obtain ⟨stamp, hs⟩ := ClockAnswer.renders_iff.mp hclock.next.1
    obtain ⟨suffix, hr⟩ := DrawAnswer.isSuffix_iff.mp hrandom.next.1
    -- Both were asked, whether the text was well formed or not.
    have hasked : g.generate.generator.sources = g.bothAsked := by
      cases hw : Identifier.wellFormed g.counter.ceiling (g.counter.compose stamp suffix) with
      | false => rw [generate_of_malformed hs hr hw]
      | true => rw [generate_of_wellFormed hs hr hw]
    apply ih
    · rw [hasked]
      exact hclock.next.2
    · rw [hasked]
      exact hrandom.next.2

theorem NeverFails.generate (h : g.NeverFails) : g.generate.generator.NeverFails :=
  fun n => h (n + 1)

theorem NeverFails.exists_ok (h : g.NeverFails) (sound : g.counter.Sound) :
    ∃ identifier, g.generate.result = .ok identifier := by
  have hfirst : g.reading.Renders ∧ g.answer.IsSuffix := h 0
  obtain ⟨hrenders, hsuffix⟩ := hfirst
  obtain ⟨stamp, hs⟩ := ClockAnswer.renders_iff.mp hrenders
  obtain ⟨suffix, hr⟩ := DrawAnswer.isSuffix_iff.mp hsuffix
  have hlow := (Ledger.balanced_of_sound sound).effective_nonneg
  exact ⟨_, by rw [generate_of_wellFormed hs hr ((wellFormed_compose_iff hs hr).mpr hlow)]⟩

theorem NeverFails.length_successes (h : g.NeverFails) (sound : g.counter.Sound) (n : Nat) :
    (g.successes n).length = n := by
  induction n generalizing g with
  | zero => rfl
  | succ n ih =>
    obtain ⟨identifier, hok⟩ := h.exists_ok sound
    rw [successes, entry?, hok, List.length_append, ih h.generate (sound_generate sound)]
    simp [Nat.add_comm]

end Generator

/-! ## Whatever the schedule -/

namespace Pool

/-- What is known of the identifiers that a batch of so many workers with such a part delivers, in
terms of its commits, and of the generator before and after it. -/
structure Lossless (g : Generator) (threads perThread : Nat) (commits : List Commit)
    (identifiers : List String) (after : Generator) : Prop where
  length : identifiers.length = threads * perThread
  /-- The commits are the successes of all attempts, in their order. -/
  committed : commits.map Commit.entry =
    g.successes (after.sources.clockCalls - g.sources.clockCalls)
  /-- Nothing else is delivered, and nothing twice. -/
  exact : identifiers.Perm (commits.map Commit.identifier)
  /-- Each worker's part stands in one block, in the order of its commits. -/
  blocks : ∀ i, i < threads →
    (identifiers.drop (i * perThread)).take perThread = Commit.madeBy commits i
  segments : (identifiers.map (counterPart g.counter.ceiling)).Perm
    ((List.range (threads * perThread)).map fun k : Nat =>
      counterSegment ((g.counter.value + k) % (g.counter.ceiling + 1)) g.counter.ceiling)
  counter : after.counter = ⟨g.counter.ceiling,
    (g.counter.value + (threads * perThread : Nat) - 1) % (g.counter.ceiling + 1) + 1⟩

variable {g : Generator} {threads perThread : Nat} {policy : RetryPolicy} {fraction : Binary64}
  {schedule : List Nat} {identifiers : List String}

theorem result_of_delivered {p : Pool} (h : p.delivered perThread = identifiers)
    (hne : identifiers ≠ []) : p.result perThread = some (.ok identifiers) := by
  unfold delivered at h
  split at h
  · rename_i hresult
    rw [hresult, h]
  · exact absurd h.symm hne

theorem lossless (sound : g.counter.Sound) (hthreads : 1 ≤ threads) (hper : 1 ≤ perThread)
    (hr : ((start g threads).run perThread policy fraction schedule).result perThread =
      some (.ok identifiers)) :
    Lossless g threads perThread ((start g threads).commits perThread policy fraction schedule)
      identifiers ((start g threads).run perThread policy fraction schedule).generator := by
  have hkept := (kept_start perThread policy g threads).run fraction schedule
  rw [List.nil_append] at hkept
  obtain ⟨n, hgenerator, hcommitted⟩ :=
    commits_eq_successes perThread policy fraction (start g threads) schedule
  generalize (start g threads).commits perThread policy fraction schedule = commits at *
  generalize (start g threads).run perThread policy fraction schedule = p at *
  have hlength := hkept.length_of_result hr
  have hexact := hkept.perm_of_result hr
  have hafter : p.generator = g.after n := hgenerator
  have hentries : commits.map Commit.entry = g.successes n := hcommitted
  have hcount : (g.successes n).length = threads * perThread := by
    rw [← hentries, List.length_map, ← hlength, hexact.length_eq, List.length_map]
  constructor
  case length => exact hlength
  case committed =>
    rw [hafter, Generator.clockCalls_after, Nat.add_sub_cancel_left, hentries]
  case exact => exact hexact
  case blocks => exact fun i => hkept.block_of_result hr
  case segments =>
    have hsegments := Generator.segments_successes sound n
    rw [hcount, ← hentries, List.map_map] at hsegments
    have hmap := hexact.map (counterPart g.counter.ceiling)
    rw [List.map_map] at hmap
    rw [← hsegments]
    exact hmap
  case counter =>
    have hpos : 0 < threads * perThread := Nat.mul_pos hthreads hper
    have hne : g.successes n ≠ [] := by
      rw [← List.length_pos_iff, hcount]
      exact hpos
    rw [hafter, Generator.counter_after sound hne, hcount]

/-! ## If nothing ever fails -/

/-- Neither clock nor random source fails from here on, and no worker stopped. -/
structure Unfailing (p : Pool) : Prop where
  sound : p.generator.counter.Sound
  never : p.generator.NeverFails
  running : ∀ w ∈ p.workers, w.stopped = none

theorem Unfailing.turn {p : Pool} (h : p.Unfailing) (i : Nat) :
    (p.turn perThread policy fraction i).Unfailing := by
  have hturn := turn_cases perThread policy fraction p i
  generalize p.turn perThread policy fraction i = p', p.commit? perThread i = commit at hturn
  cases hturn with
  | passes why => exact h
  | @attempts w found busy =>
    obtain ⟨identifier, hok⟩ := h.never.exists_ok h.sound
    refine ⟨Generator.sound_generate h.sound, h.never.generate, fun u hu => ?_⟩
    rw [attempted, hok] at hu
    rcases List.mem_or_eq_of_mem_set hu with hold | rfl
    · exact h.running u hold
    · exact h.running w (List.mem_of_getElem? found)

theorem Unfailing.run {p : Pool} (h : p.Unfailing) (schedule : List Nat) :
    (p.run perThread policy fraction schedule).Unfailing := by
  induction schedule generalizing p with
  | nil => exact h
  | cons i rest ih => exact ih (h.turn i)

/-- If nothing ever fails, a batch that is over delivers the first so many successes in some
order, and it took no more generations. -/
theorem delivers_of_neverFails (sound : g.counter.Sound) (never : g.NeverFails)
    (hthreads : 1 ≤ threads) (hper : 1 ≤ perThread) {result : Except GenerationFault (List String)}
    (hover : ((start g threads).run perThread policy fraction schedule).result perThread =
      some result) :
    ∃ identifiers, result = .ok identifiers ∧
      identifiers.Perm ((g.successes (threads * perThread)).map Entry.identifier) ∧
      ((start g threads).run perThread policy fraction schedule).generator =
        g.after (threads * perThread) := by
  have hstart : (start g threads).Unfailing := by
    refine ⟨sound, never, fun w hw => ?_⟩
    rw [List.eq_of_mem_replicate hw]
    rfl
  have hrunning : ∀ w ∈ ((start g threads).run perThread policy fraction schedule).workers,
      w.stopped = none := (hstart.run schedule).running
  obtain rfl : Worker.collect _ = result := by
    unfold Pool.result at hover
    split at hover
    · cases hover
    · exact Option.some.inj hover
  rw [collect_of_none hrunning] at hover ⊢
  have hlossless := lossless sound hthreads hper hover
  have hcommitted := hlossless.committed
  have hexact := hlossless.exact
  obtain ⟨n, hgenerator, -⟩ :=
    commits_eq_successes perThread policy fraction (start g threads) schedule
  have hafter : ((start g threads).run perThread policy fraction schedule).generator =
      g.after n := hgenerator
  rw [hafter, Generator.clockCalls_after, Nat.add_sub_cancel_left] at hcommitted
  -- Every generation succeeded, so there were as many as identifiers.
  have hn : n = threads * perThread := by
    rw [← never.length_successes sound n, ← hcommitted, List.length_map, ← hlossless.length,
      hexact.length_eq, List.length_map]
  subst hn
  refine ⟨_, rfl, ?_, hafter⟩
  rw [← hcommitted, List.map_map]
  exact hexact

/-! ## The batch as it is made -/

theorem generateBatch_of_pos (g : Generator) {threads perThread : Nat} (hthreads : 1 ≤ threads)
    (hper : 1 ≤ perThread) (policy : RetryPolicy) (fraction : Binary64) :
    g.generateBatch threads perThread policy fraction =
      let run := g.runWorkers policy fraction perThread threads
      { run with result := run.result.mapError .generation } := by
  unfold Generator.generateBatch
  rw [if_neg (by omega), if_neg (by omega)]
  rfl

end Pool

/-- **Batches.** A batch of a sound counter that delivers is lossless, whatever the schedule, and
every schedule that gives each worker enough turns ends the batch. If clock and random source never
fail, every batch that is over delivers, and what it delivers and the generator it leaves are
those of one worker that makes all of it. The batch as it is made, whose workers run one after
another, is one of the schedules. -/
theorem batch_lossless {g : Generator} (sound : g.counter.Sound) {threads perThread : Nat}
    (hthreads : 1 ≤ threads) (hper : 1 ≤ perThread) (policy : RetryPolicy) (fraction : Binary64) :
    (∀ (schedule : List Nat) (identifiers : List String),
      let first := Pool.start g threads
      let p := first.run perThread policy fraction schedule
      p.result perThread = some (.ok identifiers) →
        Pool.Lossless g threads perThread (first.commits perThread policy fraction schedule)
          identifiers p.generator) ∧
    (∀ schedule : List Nat,
      (∀ i, i < threads → perThread * policy.attempts ≤ schedule.count i) →
        ((Pool.start g threads).run perThread policy fraction schedule).result perThread ≠
          none) ∧
    (g.NeverFails → ∀ (schedule : List Nat) (policy' : RetryPolicy) (fraction' : Binary64),
      let p := (Pool.start g threads).run perThread policy fraction schedule
      let alone := g.generateBatch 1 (threads * perThread : Nat) policy' fraction'
      p.result perThread ≠ none →
        ∃ identifiers texts, p.result perThread = some (.ok identifiers) ∧
          alone.result = .ok texts ∧ identifiers.Perm texts ∧ p.generator = alone.generator) ∧
    ∃ schedule,
      let p := (Pool.start g threads).run perThread policy fraction schedule
      let batch := g.generateBatch threads perThread policy fraction
      (p.result perThread).map (·.mapError .generation) = some batch.result ∧
        p.generator = batch.generator ∧ p.notices = batch.notices ∧ p.waits = batch.waits := by
  refine ⟨?_, fun schedule => Pool.over_of_count, ?_, ?_⟩
  · intro schedule identifiers first p hr
    exact Pool.lossless sound hthreads hper hr
  · intro never schedule policy' fraction' p alone hover
    obtain ⟨result, hresult⟩ := Option.ne_none_iff_exists'.mp hover
    obtain ⟨identifiers, rfl, hperm, hgenerator⟩ :=
      Pool.delivers_of_neverFails sound never hthreads hper hresult
    -- One worker alone is a batch under a schedule as well.
    have hpos : 1 ≤ threads * perThread := Nat.mul_pos hthreads hper
    obtain ⟨schedule', hall, hgenerator', -⟩ :=
      Pool.exists_schedule (threads * perThread) policy' fraction' g 1
    obtain ⟨texts, htexts, hperm', hafter⟩ :=
      Pool.delivers_of_neverFails sound never (Nat.le_refl 1) hpos hall
    rw [Nat.one_mul] at hperm' hafter
    have halone : alone = _ :=
      Pool.generateBatch_of_pos g (Nat.le_refl 1) hpos policy' fraction'
    refine ⟨identifiers, texts, hresult, ?_, hperm.trans hperm'.symm, ?_⟩
    · rw [halone]
      dsimp only
      rw [htexts]
      rfl
    · rw [halone, hgenerator, ← hafter]
      exact hgenerator'
  · obtain ⟨schedule, hresult, hgenerator, hnotices, hwaits⟩ :=
      Pool.exists_schedule perThread policy fraction g threads
    refine ⟨schedule, ?_⟩
    rw [Pool.generateBatch_of_pos g hthreads hper]
    dsimp only at hresult ⊢
    rw [hresult]
    exact ⟨rfl, hgenerator, hnotices, hwaits⟩

/-- Two workers on a counter that waits at one above its ceiling: the first attempt of the second
worker fails, and the other one commits before it tries again. On a clock that never fails the
workers of another schedule make what one worker makes alone. -/
theorem batch_lossless_interleaved :
    let m : Moment := ⟨.mk 2026 7 17, .mk 12 0 0 0, none⟩
    let draws : RandomSource := .scripted ⟨.value (.int 100000),
      [.value (.int 100001), .value (.int 100002), .value (.int 100003)]⟩
    let faltering : Generator :=
      ⟨⟨1, 2⟩, Sources.new ⟨.reading m, [.raised "no time", .reading m]⟩ draws⟩
    let steady : Generator := ⟨⟨1, 2⟩, Sources.new ⟨.reading m, []⟩ draws⟩
    let policy : RetryPolicy := ⟨2, .int 0, .int 0⟩
    let first := Pool.start faltering 2
    let p := first.run 2 policy .zero [0, 1, 0, 1, 1]
    let identifiers := ["202607171200000000100000", "202607171200000001100001",
      "202607171200000000100002", "202607171200000001100003"]
    faltering.counter.Sound ∧ p.result 2 = some (.ok identifiers) ∧
      Pool.Lossless faltering 2 2 (first.commits 2 policy .zero [0, 1, 0, 1, 1]) identifiers
        p.generator ∧
      steady.NeverFails ∧
      ∃ made alone,
        ((Pool.start steady 2).run 2 policy .zero [1, 0, 0, 1, 1, 0, 1, 0]).result 2 =
            some (.ok made) ∧
          (steady.generateBatch 1 4 policy .zero).result = .ok alone ∧ made.Perm alone := by
  intro m draws faltering steady policy first p identifiers
  have sound : faltering.counter.Sound := by decide
  have hresult : p.result 2 = some (.ok identifiers) :=
    Pool.result_of_delivered (by decide +kernel) (by decide)
  have hclock : (ClockAnswer.reading m).Renders := ⟨m, rfl, by decide, by decide⟩
  have never : steady.NeverFails := by
    refine Generator.neverFails_of_sources ⟨hclock, by simp [steady, Sources.new]⟩ ?_
    simp [steady, draws, Sources.new, RandomSource.NeverFails, Script.All, DrawAnswer.IsSuffix]
  obtain ⟨hlossless, -, -, -⟩ :=
    batch_lossless sound (by decide : 1 ≤ 2) (by decide : 1 ≤ 2) policy .zero
  obtain ⟨-, hends, hsame, -⟩ :=
    batch_lossless (g := steady) sound (by decide : 1 ≤ 2) (by decide : 1 ≤ 2) policy .zero
  obtain ⟨made, alone, hmade, halone, hperm, -⟩ :=
    hsame never [1, 0, 0, 1, 1, 0, 1, 0] policy .zero (hends _ (by decide))
  exact ⟨sound, hresult, hlossless _ _ hresult, never, made, alone, hmade, halone, hperm⟩

end Sequencer

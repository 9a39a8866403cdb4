import Mathlib.Data.List.Dedup
import Sequencer.Generator.Schedule
import Sequencer.Proofs.Batches
import Sequencer.Proofs.Stages
import Sequencer.Proofs.TimeOrder

/-!
# What a batch delivers and how it is summed up

However the workers take turns, a batch that delivers makes as many identifiers as it was asked
for, all of them well formed. Its account then finds nothing malformed, counts the different ones,
and is healthy iff all are different.
-/

namespace Sequencer

open Stage

/-! ## Well-formed identifiers -/

theorem Ledger.Balanced.wellFormed_of_mem {ceiling : Int} {l : Ledger} (h : l.Balanced ceiling)
    {e : Entry} (he : e ∈ l.entries) : Identifier.wellFormed ceiling e.identifier = true := by
  obtain ⟨k, hk⟩ := List.mem_iff_getElem?.mp he
  obtain ⟨m, suffix, -, hallowed, hid⟩ := h.exists_parts hk
  rw [hid]
  exact hallowed.wellFormed

theorem Generator.wellFormed_of_mem_successes {g : Generator} (sound : g.counter.Sound) {n : Nat}
    {e : Entry} (h : e ∈ g.successes n) :
    Identifier.wellFormed g.counter.ceiling e.identifier = true := by
  obtain ⟨l, hbalanced, -, hentries, -⟩ := exists_balanced sound n
  rw [← hentries] at h
  exact hbalanced.wellFormed_of_mem h

namespace Pool

variable {g : Generator} {threads perThread : Nat} {policy : RetryPolicy} {fraction : Binary64}
  {schedule : List Nat} {identifiers : List String}

theorem wellFormed_of_result (sound : g.counter.Sound) (hthreads : 1 ≤ threads)
    (hper : 1 ≤ perThread)
    (hr : ((start g threads).run perThread policy fraction schedule).result perThread =
      some (.ok identifiers)) :
    ∀ text ∈ identifiers, Identifier.wellFormed g.counter.ceiling text = true := by
  intro text hmem
  have hlossless := lossless sound hthreads hper hr
  obtain ⟨commit, hcommit, rfl⟩ := List.mem_map.mp (hlossless.exact.mem_iff.mp hmem)
  have hentry := List.mem_map_of_mem (f := Commit.entry) hcommit
  rw [hlossless.committed] at hentry
  exact Generator.wellFormed_of_mem_successes sound hentry

end Pool

/-! ## Batches in any order of turns -/

namespace Generator

variable {turns : List Nat} {g : Generator} {threads perThread : Int} {policy : RetryPolicy}
  {fraction : Binary64}

/-- A batch fails at once if it is asked for too little, and nothing is touched. -/
theorem generateBatchIn_eq_of_lt (turns : List Nat) (g : Generator) (policy : RetryPolicy)
    (fraction : Binary64) (h : threads < 1 ∨ perThread < 1) :
    ∃ fault, fault.kind = .config ∧ g.generateBatchIn turns threads perThread policy fraction =
      { result := .error fault, generator := g, notices := [], waits := [] } := by
  unfold generateBatchIn
  rw [if_pos h]
  unfold generateBatch
  split
  · exact ⟨_, rfl, rfl⟩
  · rename_i hthreads
    rw [if_pos (h.resolve_left hthreads)]
    exact ⟨_, rfl, rfl⟩

theorem generateBatchIn_of_lt (turns : List Nat) (g : Generator) (policy : RetryPolicy)
    (fraction : Binary64) (h : threads < 1 ∨ perThread < 1) :
    ∃ fault, (g.generateBatchIn turns threads perThread policy fraction).result = .error fault ∧
      fault.kind = .config := by
  obtain ⟨fault, hkind, heq⟩ := generateBatchIn_eq_of_lt turns g policy fraction h
  exact ⟨fault, by rw [heq], hkind⟩

/-- Any other batch is one under some schedule, which is the one given if that ends the batch. -/
theorem generateBatchIn_eq_run (turns : List Nat) (g : Generator) (policy : RetryPolicy)
    (fraction : Binary64) (hthreads : 1 ≤ threads) (hper : 1 ≤ perThread) :
    ∃ schedule result,
      let p := (Pool.start g threads.toNat).run perThread.toNat policy fraction schedule
      p.result perThread.toNat = some result ∧
      g.generateBatchIn turns threads perThread policy fraction =
        { result := result.mapError .generation
          generator := p.generator
          notices := p.notices
          waits := p.waits } ∧
      (((Pool.start g threads.toNat).run perThread.toNat policy fraction turns).result
        perThread.toNat ≠ none → schedule = turns) := by
  unfold generateBatchIn
  dsimp only
  rw [if_neg (by omega)]
  split
  · rename_i hnone
    obtain ⟨schedule, hresult, hgenerator, hnotices, hwaits⟩ :=
      Pool.exists_schedule perThread.toNat policy fraction g threads.toNat
    refine ⟨schedule, _, hresult, ?_, fun hne => absurd hnone hne⟩
    unfold generateBatch
    rw [if_neg (by omega), if_neg (by omega), hgenerator, hnotices, hwaits]
  · rename_i result hresult
    exact ⟨turns, result, hresult, rfl, fun _ => rfl⟩

theorem exists_schedule_of_generateBatchIn (hthreads : 1 ≤ threads) (hper : 1 ≤ perThread) :
    ∃ schedule result,
      ((Pool.start g threads.toNat).run perThread.toNat policy fraction schedule).result
        perThread.toNat = some result ∧
      (g.generateBatchIn turns threads perThread policy fraction).result =
        result.mapError .generation := by
  obtain ⟨schedule, result, hresult, heq, -⟩ :=
    generateBatchIn_eq_run turns g policy fraction hthreads hper
  exact ⟨schedule, result, hresult, by rw [heq]⟩

/-- What a batch delivers: so many identifiers as it was asked for, all well formed. -/
theorem generateBatchIn_eq_ok (sound : g.counter.Sound) {identifiers : List String}
    (h : (g.generateBatchIn turns threads perThread policy fraction).result = .ok identifiers) :
    (1 ≤ threads ∧ 1 ≤ perThread) ∧ (identifiers.length : Int) = threads * perThread ∧
      ∀ text ∈ identifiers, Identifier.wellFormed g.counter.ceiling text = true := by
  by_cases hlt : threads < 1 ∨ perThread < 1
  · obtain ⟨fault, hfault, -⟩ := generateBatchIn_of_lt turns g policy fraction hlt
    rw [hfault] at h
    cases h
  · have hthreads : 1 ≤ threads := by omega
    have hper : 1 ≤ perThread := by omega
    obtain ⟨schedule, result, hresult, heq⟩ := exists_schedule_of_generateBatchIn hthreads hper
    rw [heq] at h
    obtain rfl := mapError_eq_ok_iff.mp h
    refine ⟨⟨hthreads, hper⟩, ?_, ?_⟩
    · have hlength := (Pool.lossless sound (by omega) (by omega) hresult).length
      rw [hlength, Int.natCast_mul, Int.toNat_of_nonneg (by omega), Int.toNat_of_nonneg (by omega)]
    · exact Pool.wellFormed_of_result sound (by omega) (by omega) hresult

/-- A batch that was asked for enough and still fails was stopped by a generation. -/
theorem generateBatchIn_eq_error (hthreads : 1 ≤ threads) (hper : 1 ≤ perThread)
    {fault : Batch.Fault}
    (h : (g.generateBatchIn turns threads perThread policy fraction).result = .error fault) :
    ∃ reason, fault = .generation reason := by
  obtain ⟨schedule, result, -, heq⟩ := exists_schedule_of_generateBatchIn hthreads hper
  rw [heq] at h
  obtain ⟨reason, -, rfl⟩ := mapError_eq_error_iff.mp h
  exact ⟨reason, rfl⟩

end Generator

/-! ## Accounts -/

theorem distinctCount_eq_length_dedup (texts : List String) :
    distinctCount texts = texts.dedup.length := by
  induction texts with
  | nil => rfl
  | cons text rest ih =>
    unfold distinctCount
    split
    · rename_i hmem
      rw [List.dedup_cons_of_mem hmem, ih]
    · rename_i hmem
      rw [List.dedup_cons_of_notMem hmem, List.length_cons, ih]

theorem length_dedup_eq_iff {texts : List String} :
    texts.dedup.length = texts.length ↔ texts.Nodup := by
  rw [← List.dedup_eq_self]
  exact ⟨(List.dedup_sublist texts).eq_of_length, congrArg List.length⟩

/-- The account of well-formed identifiers. -/
structure BatchSummary.Tells (s : BatchSummary) (identifiers : List String) : Prop where
  total : s.total = identifiers.length
  malformed : s.malformed = 0
  unique : s.unique = identifiers.dedup.length
  duplicates : s.duplicates = identifiers.length - identifiers.dedup.length

variable {identifiers : List String} {threads perThread ceiling : Int}

/-- A batch that is summed up lasted some time, and has the counts of its identifiers. -/
theorem eq_tally_of_summarise {duration : Except DurationFault Int} {s : BatchSummary}
    (h : summarise identifiers threads perThread ceiling duration = .ok s) :
    ∃ durationMs, duration = .ok durationMs ∧
      s = tally identifiers threads perThread ceiling durationMs := by
  unfold summarise at h
  split at h
  · cases h
  · cases duration with
    | error fault => cases h
    | ok durationMs => exact ⟨durationMs, rfl, (Except.ok.inj h).symm⟩

theorem tells_tally (h : ∀ text ∈ identifiers, Identifier.wellFormed ceiling text = true)
    (durationMs : Int) :
    (tally identifiers threads perThread ceiling durationMs).Tells identifiers where
  total := rfl
  malformed := List.countP_eq_zero.mpr fun text hmem => by simp [h text hmem]
  unique := distinctCount_eq_length_dedup identifiers
  duplicates := congrArg (identifiers.length - ·) (distinctCount_eq_length_dedup identifiers)

theorem BatchSummary.Tells.healthy_iff {s : BatchSummary} (h : s.Tells identifiers) :
    s.healthy = true ↔ identifiers.Nodup := by
  have hle : identifiers.dedup.length ≤ identifiers.length :=
    (List.dedup_sublist identifiers).length_le
  unfold healthy
  rw [h.duplicates, h.malformed, ← length_dedup_eq_iff]
  simp only [Bool.and_eq_true, decide_eq_true_eq, and_true]
  omega

end Sequencer

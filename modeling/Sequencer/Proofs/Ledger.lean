import Sequencer.Proofs.Generation

/-!
# The ledger of a generator

A ledger keeps a generator together with what happened to it since its value was last set: the
value set, one entry for each generation that succeeded, and everything that was reported. It
advances by acts, the two things that take the lock and may change the counter: a generation and
a value to be set.

`Balanced` is the invariant that carries every statement about runs. It holds when a ledger is
opened on a sound counter (`Balanced.opened`), each act keeps it (`Balanced.act`), and so does a
run (`Balanced.run`). Its core is `balance`: the value and one ceiling-and-one for each new start
from zero add up to the value set and the number of successes.
-/

namespace Sequencer

open Text

/-- A generation that succeeded: the identifier, what clock and random source answered, and
whether the counter started again from zero. -/
structure Entry where
  identifier : String
  reading : ClockAnswer
  answer : DrawAnswer
  reset : Bool

/-- The entry is the identifier of a stamp, a suffix and this counter value. -/
def Entry.MadeOf (ceiling value : Int) (e : Entry) : Prop :=
  ∃ stamp suffix, e.reading.stamp = .ok stamp ∧ e.answer.suffix = .ok suffix ∧
    e.identifier = Identifier.spelled ceiling value stamp suffix

/-- What takes the lock of a counter and may change its value. -/
inductive Act
  | generate
  | force (value : Int)

/-- A generator and what happened to it since its value was last set. -/
structure Ledger where
  generator : Generator
  /-- The value that was set. -/
  base : Int
  /-- The generations that succeeded since then. -/
  entries : List Entry
  /-- What was reported before. -/
  earlier : List Notice
  /-- What was reported since then. -/
  notices : List Notice

/-- An entry of a list with one more entry behind is one of the list or the new one. -/
theorem getElem?_concat_cases {α : Type} {l : List α} {a b : α} {k : Nat}
    (h : (l ++ [a])[k]? = some b) : l[k]? = some b ∨ k = l.length ∧ b = a := by
  by_cases hlt : k < l.length
  · rw [List.getElem?_append_left hlt] at h
    exact .inl h
  · have hle := (List.getElem?_eq_some_iff.mp h).1
    rw [List.length_append, List.length_singleton] at hle
    obtain rfl : k = l.length := by omega
    rw [List.getElem?_concat_length] at h
    cases h
    exact .inr ⟨rfl, rfl⟩

/-- The entry of the next generation if it succeeds. -/
def Generator.entry? (g : Generator) : Option Entry :=
  match g.generate.result with
  | .ok identifier => some ⟨identifier, g.reading, g.answer, g.counter.wraps⟩
  | .error _ => none

/-- The entries of so many generations. -/
def Generator.successes (g : Generator) : Nat → List Entry
  | 0 => []
  | n + 1 => g.entry?.toList ++ g.generate.generator.successes n

namespace Ledger

/-- A ledger without entries. -/
def opened (g : Generator) : Ledger := ⟨g, g.counter.value, [], [], []⟩

/-- The value of the counter. -/
def value (l : Ledger) : Int := l.generator.counter.value

/-- How many generations started again from zero. -/
def resets (l : Ledger) : Nat := l.entries.countP Entry.reset

/-- Everything that was reported, in order. -/
def log (l : Ledger) : List Notice := l.earlier ++ l.notices

/-- The ledger after an act. A value that is set starts a new account; one that is rejected
changes nothing. -/
def act (l : Ledger) : Act → Ledger
  | .generate => { l with
      generator := l.generator.generate.generator
      entries := l.entries ++ l.generator.entry?.toList
      notices := l.notices ++ l.generator.generate.notices }
  | .force value =>
    match l.generator.counter.force value with
    | .ok counter => {
        generator := { l.generator with counter }
        base := value
        entries := []
        earlier := l.log
        notices := [] }
    | .error _ => l

/-- The ledger after acts, one after another. -/
def run (l : Ledger) (acts : List Act) : Ledger := acts.foldl act l

theorem run_append (l : Ledger) (first second : List Act) :
    l.run (first ++ second) = (l.run first).run second := List.foldl_append

/-- Generations in a row keep the value that was set and put their entries behind. -/
theorem run_successes (l : Ledger) (n : Nat) :
    (l.run (List.replicate n .generate)).base = l.base ∧
      (l.run (List.replicate n .generate)).entries = l.entries ++ l.generator.successes n := by
  induction n generalizing l with
  | zero => exact ⟨rfl, (List.append_nil _).symm⟩
  | succ n ih =>
    obtain ⟨hbase, hentries⟩ := ih (l.act .generate)
    refine ⟨hbase, ?_⟩
    rw [Generator.successes, ← List.append_assoc]
    exact hentries

/-! ## What one act does -/

section

variable {l : Ledger}

theorem act_of_failed {fault : GenerationFault} {sources : Sources}
    (h : l.generator.generate = {
      result := .error fault
      generator := { l.generator with sources }
      notices := [.failed fault] }) :
    l.act .generate = { l with
      generator := { l.generator with sources }
      notices := l.notices ++ [.failed fault] } := by
  simp [act, Generator.entry?, h]

theorem act_of_delivered {identifier : String} {counter : Counter} {sources : Sources}
    {notices : List Notice}
    (h : l.generator.generate = {
      result := .ok identifier, generator := ⟨counter, sources⟩, notices }) :
    l.act .generate = { l with
      generator := ⟨counter, sources⟩
      entries := l.entries ++
        [⟨identifier, l.generator.reading, l.generator.answer, l.generator.counter.wraps⟩]
      notices := l.notices ++ notices } := by
  simp [act, Generator.entry?, h]

theorem act_of_inRange {value : Int} (h : Counter.InRange l.generator.counter.ceiling value) :
    l.act (.force value) = {
      generator := { l.generator with counter := { l.generator.counter with value } }
      base := value
      entries := []
      earlier := l.log
      notices := [] } := by
  simp [act, Counter.force, h]

theorem act_of_not_inRange {value : Int}
    (h : ¬ Counter.InRange l.generator.counter.ceiling value) : l.act (.force value) = l := by
  simp [act, Counter.force, h]

end

/-! ## The records of new starts -/

/-- The record that tells of a counter starting again from zero. -/
def isResetRecord (r : Log.Record) : Bool :=
  r.level = .debug && r.message = "counter reset"

/-- How many such records the notices make. -/
def resetRecords (notices : List Notice) : Nat := (notices.map Notice.record).countP isResetRecord

theorem resetRecords_append (first second : List Notice) :
    resetRecords (first ++ second) = resetRecords first + resetRecords second := by
  simp [resetRecords]

theorem resetRecords_failed (fault : GenerationFault) : resetRecords [.failed fault] = 0 := by
  simp [resetRecords, isResetRecord, Notice.record]

theorem resetRecords_ite (wraps : Bool) :
    resetRecords (if wraps then [.counterReset] else []) = if wraps then 1 else 0 := by
  cases wraps with
  | false => rfl
  | true => simp [resetRecords, isResetRecord, Notice.record]

/-! ## Arithmetic of the wraparound -/

section

variable {ceiling value resets total : Int}

/-- A remainder fills the place of the counter and no more. -/
theorem emod_range (hc : 1 ≤ ceiling) (total : Int) :
    0 ≤ total % (ceiling + 1) ∧ total % (ceiling + 1) ≤ ceiling := by
  have hlow := Int.emod_nonneg total (by omega : ceiling + 1 ≠ 0)
  have hhigh := Int.emod_lt_of_pos total (by omega : 0 < ceiling + 1)
  omega

/-- What the next identifier is made of, out of the balance. -/
theorem effective_eq_emod (low : 0 ≤ value) (high : value ≤ ceiling + 1)
    (balance : value + resets * (ceiling + 1) = total) :
    (⟨ceiling, value⟩ : Counter).effective = total % (ceiling + 1) := by
  unfold Counter.effective
  subst balance
  dsimp only
  split
  · have hv : value = ceiling + 1 := by omega
    rw [hv, Int.add_mul_emod_self_right, Int.emod_self]
  · rw [Int.add_mul_emod_self_right, Int.emod_eq_of_lt low (by omega)]

/-- A success moves the balance on by one: the value grows, or a new start makes up for it. -/
theorem balance_next (high : value ≤ ceiling + 1)
    (balance : value + resets * (ceiling + 1) = total) :
    (⟨ceiling, value⟩ : Counter).effective + 1 +
      (resets + if (⟨ceiling, value⟩ : Counter).wraps then 1 else 0) * (ceiling + 1) =
        total + 1 := by
  unfold Counter.effective Counter.wraps
  dsimp only
  by_cases hw : value > ceiling
  · have hv : value = ceiling + 1 := by omega
    simp only [hw, if_true, decide_true]
    rw [Int.add_mul]
    omega
  · simp only [hw, if_false, decide_false, Bool.false_eq_true, Int.add_zero]
    omega

/-- The number of new starts, out of the balance after a success. -/
theorem resets_eq_ediv (low : 1 ≤ value) (high : value ≤ ceiling + 1)
    (balance : value + resets * (ceiling + 1) = total) :
    resets = (total - 1) / (ceiling + 1) := by
  have htotal : total - 1 = (value - 1) + resets * (ceiling + 1) := by omega
  rw [htotal, Int.add_mul_ediv_right _ _ (by omega),
    Int.ediv_eq_zero_of_lt (by omega) (by omega), Int.zero_add]

end

/-! ## The invariant -/

/-- The invariant of ledgers under a ceiling of at least one. -/
structure Balanced (ceiling : Int) (l : Ledger) : Prop where
  ceiling_pos : 1 ≤ ceiling
  ceiling_eq : l.generator.counter.ceiling = ceiling
  base_range : Counter.InRange ceiling l.base
  value_range : Counter.InRange ceiling l.value
  /-- Only a value that was set can be zero between two generations. -/
  moved : l.entries ≠ [] → 1 ≤ l.value
  untouched : l.entries = [] → l.value = l.base
  balance : l.value + l.resets * (ceiling + 1) = l.base + l.entries.length
  made : ∀ (k : Nat) (e : Entry), l.entries[k]? = some e →
    e.MadeOf ceiling ((l.base + k) % (ceiling + 1))
  records : resetRecords l.notices = l.resets
  /-- No composed identifier ever broke the layout. -/
  noBreach : ∀ fault, Notice.failed fault ∈ l.log → fault.kind ≠ .contract

theorem balanced_opened {ceiling start : Int} (hc : 1 ≤ ceiling)
    (hs : Counter.InRange ceiling start) (sources : Sources) :
    (opened ⟨⟨ceiling, start⟩, sources⟩).Balanced ceiling where
  ceiling_pos := hc
  ceiling_eq := rfl
  base_range := hs
  value_range := hs
  moved h := absurd rfl h
  untouched _ := rfl
  balance := by simp [opened, resets, value]
  made k e h := by simp [opened] at h
  records := rfl
  noBreach fault h := by simp [opened, log] at h

theorem balanced_of_sound {g : Generator} (h : g.counter.Sound) :
    (opened g).Balanced g.counter.ceiling :=
  balanced_opened h.1 h.2 g.sources

namespace Balanced

variable {ceiling : Int} {l : Ledger}

theorem counter_eq (h : l.Balanced ceiling) : l.generator.counter = ⟨ceiling, l.value⟩ := by
  rw [← h.ceiling_eq]
  rfl

theorem effective_nonneg (h : l.Balanced ceiling) : 0 ≤ l.generator.counter.effective := by
  have hlow := h.value_range.1
  rw [Counter.effective_nonneg_iff]
  unfold value at hlow
  omega

theorem effective_eq (h : l.Balanced ceiling) :
    l.generator.counter.effective = (l.base + l.entries.length) % (ceiling + 1) := by
  rw [h.counter_eq]
  exact effective_eq_emod h.value_range.1 h.value_range.2 h.balance

/-- A generation cannot break the layout. -/
theorem not_contract (h : l.Balanced ceiling) {fault : GenerationFault}
    (hf : l.generator.generate.result = .error fault) : fault.kind ≠ .contract := by
  intro hk
  have hmal : ∃ identifier, fault = .malformed identifier := by
    cases fault with
    | malformed identifier => exact ⟨identifier, rfl⟩
    | clock fault => cases hk
    | randomRaised message => cases hk
    | randomOutOfRange answer => cases hk
  rcases l.generator.generate_cases with ⟨fault', sources, he, hneg⟩ | ⟨_, _, _, _, _, he⟩
  · rw [he] at hf
    cases hf
    have := hneg hmal
    have := h.effective_nonneg
    omega
  · rw [he] at hf
    cases hf

/-- A generation that fails changes nothing but the sources and the log. -/
theorem act_failed (h : l.Balanced ceiling) {fault : GenerationFault} {sources : Sources}
    (hf : fault.kind ≠ .contract) :
    ({ l with
        generator := { l.generator with sources }
        notices := l.notices ++ [.failed fault] } : Ledger).Balanced ceiling where
  ceiling_pos := h.ceiling_pos
  ceiling_eq := h.ceiling_eq
  base_range := h.base_range
  value_range := h.value_range
  moved := h.moved
  untouched := h.untouched
  balance := h.balance
  made := h.made
  records := by
    rw [resetRecords_append, resetRecords_failed]
    exact h.records
  noBreach other hmem := by
    simp only [log, ← List.append_assoc, List.mem_append, List.mem_singleton] at hmem
    rcases hmem with hold | hnew
    · exact h.noBreach other (List.mem_append.mpr hold)
    · cases hnew
      exact hf

/-- A generation that succeeds makes the next entry and moves the counter on. -/
theorem act_delivered (h : l.Balanced ceiling) {stamp : List Char} {suffix : Nat}
    (hs : l.generator.reading.stamp = .ok stamp) (hr : l.generator.answer.suffix = .ok suffix)
    (sources : Sources) :
    ({ l with
        generator :=
          ⟨{ l.generator.counter with value := l.generator.counter.effective + 1 }, sources⟩
        entries := l.entries ++ [⟨l.generator.counter.compose stamp suffix,
          l.generator.reading, l.generator.answer, l.generator.counter.wraps⟩]
        notices := l.notices ++ if l.generator.counter.wraps then [.counterReset] else [] } :
      Ledger).Balanced ceiling := by
  have hpos := h.ceiling_pos
  have hlow := h.effective_nonneg
  have hrange := h.value_range
  have hbal := h.balance
  have hcount := h.records
  have hfits := l.generator.counter.effective_fits
  rw [h.ceiling_eq] at hfits
  unfold Counter.InRange at hrange
  constructor
  case ceiling_pos => exact hpos
  case ceiling_eq => exact h.ceiling_eq
  case base_range => exact h.base_range
  case value_range =>
    show 0 ≤ l.generator.counter.effective + 1 ∧
      l.generator.counter.effective + 1 ≤ ceiling + 1
    omega
  case moved =>
    intro _
    show 1 ≤ l.generator.counter.effective + 1
    omega
  case untouched =>
    intro hnil
    exact absurd hnil (by simp)
  case balance =>
    -- One more success on the right; on the left one more, or a new start in place of it.
    show l.generator.counter.effective + 1 +
      ((l.entries ++ [_]).countP Entry.reset : Nat) * (ceiling + 1) =
        l.base + ((l.entries ++ [_]).length : Nat)
    rw [List.countP_append, List.countP_singleton, List.length_append, List.length_singleton]
    have hnext := balance_next hrange.2 hbal
    rw [← h.counter_eq] at hnext
    cases hw : l.generator.counter.wraps with
    | false =>
      rw [hw] at hnext
      simpa [resets, Int.add_assoc] using hnext
    | true =>
      rw [hw] at hnext
      simpa [resets, Int.add_assoc] using hnext
  case made =>
    intro k e hk
    rcases getElem?_concat_cases hk with hold | ⟨rfl, rfl⟩
    · exact h.made k e hold
    -- The new entry is made of the value that the balance gives.
    · refine ⟨stamp, suffix, hs, hr, ?_⟩
      rw [Counter.compose_eq_spelled, h.ceiling_eq, h.effective_eq]
  case records =>
    show resetRecords (l.notices ++ _) = (l.entries ++ [_]).countP Entry.reset
    rw [resetRecords_append, resetRecords_ite, List.countP_append, List.countP_singleton, hcount]
    rfl
  case noBreach =>
    intro fault hmem
    simp only [log, ← List.append_assoc] at hmem
    rcases List.mem_append.mp hmem with hold | hnew
    · exact h.noBreach fault hold
    · split at hnew
      · simp at hnew
      · simp at hnew

theorem act (h : l.Balanced ceiling) (a : Act) : (l.act a).Balanced ceiling := by
  cases a with
  | generate =>
    rcases l.generator.generate_cases with
      ⟨fault, sources, he, -⟩ | ⟨stamp, suffix, hs, hr, -, he⟩
    · rw [act_of_failed he]
      exact h.act_failed (h.not_contract (by rw [he]))
    · rw [act_of_delivered he]
      exact h.act_delivered hs hr _
  | force value =>
    by_cases hv : Counter.InRange l.generator.counter.ceiling value
    -- A value that is set opens a new account; what was reported before stays in the log.
    · rw [act_of_inRange hv]
      rw [h.ceiling_eq] at hv
      constructor
      case ceiling_pos => exact h.ceiling_pos
      case ceiling_eq => exact h.ceiling_eq
      case base_range => exact hv
      case value_range => exact hv
      case moved => exact fun hne => absurd rfl hne
      case untouched => exact fun _ => rfl
      case balance => simp [resets, Ledger.value]
      case made => simp
      case records => rfl
      case noBreach =>
        intro fault hmem
        rw [log, List.append_nil] at hmem
        exact h.noBreach fault hmem
    · rw [act_of_not_inRange hv]
      exact h

theorem run (h : l.Balanced ceiling) (acts : List Act) : (l.run acts).Balanced ceiling := by
  induction acts generalizing l with
  | nil => exact h
  | cons a rest ih => exact ih (h.act a)

end Balanced

end Ledger

end Sequencer

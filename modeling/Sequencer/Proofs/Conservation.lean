import Sequencer.Proofs.Attempts
import Sequencer.Proofs.Ledger

/-!
# Conservation of the counter over whole runs

What a run keeps, in closed form: `Conserved` says it of a ledger, and follows from the invariant
`Balanced`. Runs are made of deeds, the public operations that touch a counter. Each is a row of
acts (`run_acts`), so a run of deeds is one of acts too (`run_history`), and what holds after
every row of acts holds between any two generations of it, also between two attempts of a retried
call and between the turns of a batch.
-/

namespace Sequencer

/-! ## The closed form -/

/-- What is known of a generator under a ceiling, in terms of the value that was set last and the
generations that succeeded since then. -/
structure Ledger.Conserved (ceiling : Int) (l : Ledger) : Prop where
  range : 0 ≤ l.value ∧ l.value ≤ ceiling + 1
  balance : l.value + l.resets * (ceiling + 1) = l.base + l.entries.length
  segments : ∀ (k : Nat) (e : Entry), l.entries[k]? = some e →
    Identifier.counterPart ceiling e.identifier =
      Identifier.counterSegment ((l.base + k) % (ceiling + 1)) ceiling
  resets : (l.resets : Int) =
    if l.entries.length = 0 then 0 else (l.base + l.entries.length - 1) / (ceiling + 1)
  /-- Every new start is logged, and nothing else is logged as one. -/
  records : Ledger.resetRecords l.notices = l.resets
  rejected : ∀ value, ¬ (0 ≤ value ∧ value ≤ ceiling + 1) → l.act (.force value) = l
  failed : ∀ fault, l.generator.generate.result = .error fault →
    (l.act .generate).value = l.value ∧ (l.act .generate).base = l.base ∧
      (l.act .generate).entries = l.entries
  /-- Neither the next generation nor one in the log breaks the layout. -/
  noBreach : ∀ fault, l.generator.generate.result = .error fault ∨ Notice.failed fault ∈ l.log →
    fault.kind ≠ .contract

theorem Entry.MadeOf.counterPart {ceiling value : Int} {e : Entry} (h : e.MadeOf ceiling value)
    (low : 0 ≤ value) (high : value ≤ ceiling) :
    Identifier.counterPart ceiling e.identifier = Identifier.counterSegment value ceiling := by
  obtain ⟨stamp, suffix, hs, -, hid⟩ := h
  rw [hid]
  exact Identifier.counterPart_spelled (ClockAnswer.length_of_stamp hs) low (.inr high)

theorem Ledger.Balanced.conserved {ceiling : Int} {l : Ledger} (h : l.Balanced ceiling) :
    l.Conserved ceiling := by
  constructor
  case range => exact h.value_range
  case balance => exact h.balance
  case segments =>
    intro k e hk
    obtain ⟨hlow, hhigh⟩ := Ledger.emod_range h.ceiling_pos (l.base + k)
    exact (h.made k e hk).counterPart hlow hhigh
  case resets =>
    split
    · rename_i hnil
      have hempty : l.entries = [] := List.length_eq_zero_iff.mp hnil
      simp [Ledger.resets, hempty]
    · rename_i hne
      have hmoved := h.moved (fun hnil => hne (by rw [hnil]; rfl))
      exact Ledger.resets_eq_ediv hmoved h.value_range.2 h.balance
  case records => exact h.records
  case rejected =>
    intro value hv
    rw [← h.ceiling_eq] at hv
    exact Ledger.act_of_not_inRange hv
  case failed =>
    intro fault hf
    rcases l.generator.generate_cases with ⟨fault', sources, he, -⟩ | ⟨_, _, _, _, _, he⟩
    · rw [Ledger.act_of_failed he]
      exact ⟨rfl, rfl, rfl⟩
    · rw [he] at hf
      cases hf
  case noBreach =>
    rintro fault (hnext | hlog)
    · exact h.not_contract hnext
    · exact h.noBreach fault hlog

/-! ## Deeds -/

/-- An operation that touches the counter of a session's generator. -/
inductive Deed
  | generate
  | retry (policy : RetryPolicy)
  /-- A batch whose workers run one after another. -/
  | batch (threads perThread : Int) (policy : RetryPolicy)
  /-- A batch whose workers take turns. -/
  | schedule (threads perThread : Nat) (policy : RetryPolicy) (turns : List Nat)
  | force (value : Int)

namespace Deed

/-- What a deed reports, and the session after it. -/
def perform (fraction : Binary64) (s : Session) : Deed → List Notice × Session
  | generate => let (report, after) := s.step fraction .generate; (report.notices, after)
  | retry policy => let (report, after) := s.step fraction (.retry policy); (report.notices, after)
  | batch threads perThread policy =>
    let (report, after) := s.step fraction (.batch threads perThread policy)
    (report.notices, after)
  | schedule threads perThread policy turns => s.schedule fraction threads perThread policy turns
  | force value => let (report, after) := s.step fraction (.force value); (report.notices, after)

/-- The acts that a deed consists of: as many generations as the clock was asked. -/
def acts (fraction : Binary64) (s : Session) (d : Deed) : List Act :=
  match d with
  | force value => [.force value]
  | _ =>
    let after := (d.perform fraction s).2
    List.replicate (after.generator.sources.clockCalls - s.generator.sources.clockCalls) .generate

/-- What deeds report one after another, and the session after them. -/
def play (fraction : Binary64) (s : Session) : List Deed → List Notice × Session
  | [] => ([], s)
  | d :: rest =>
    let (first, next) := d.perform fraction s
    let (later, last) := play fraction next rest
    (first ++ later, last)

/-- The acts that deeds consist of one after another. -/
def history (fraction : Binary64) (s : Session) : List Deed → List Act
  | [] => []
  | d :: rest => d.acts fraction s ++ history fraction (d.perform fraction s).2 rest

end Deed

/-! ## Deeds are acts -/

theorem Session.deliver_generator {ε α : Type} (s : Session) (run : Waited ε α)
    (identifiers : α → List String) (answer : α → Session.Answer) (fault : ε → Session.Fault) :
    (s.deliver run identifiers answer fault).2.generator = run.generator := by
  unfold Session.deliver
  split <;> rfl

theorem Session.deliver_notices {ε α : Type} (s : Session) (run : Waited ε α)
    (identifiers : α → List String) (answer : α → Session.Answer) (fault : ε → Session.Fault) :
    (s.deliver run identifiers answer fault).1.notices = run.notices := by
  unfold Session.deliver
  split <;> rfl

namespace Deed

variable (fraction : Binary64) (s : Session) {d : Deed}

theorem acts_of_not_force (hd : ¬ ∃ value, d = .force value) :
    d.acts fraction s = List.replicate ((d.perform fraction s).2.generator.sources.clockCalls -
      s.generator.sources.clockCalls) .generate := by
  cases d with
  | force value => exact absurd ⟨value, rfl⟩ hd
  | _ => rfl

/-- Every deed that sets no value is so many generations. -/
theorem spans (hd : ¬ ∃ value, d = .force value) :
    Generator.Spans s.generator (d.perform fraction s).2.generator (d.perform fraction s).1 := by
  cases d with
  | generate =>
    simp only [perform, Session.step, Session.deliver_generator, Session.deliver_notices]
    exact Generator.Spans.generate s.generator
  | retry policy =>
    simp only [perform, Session.step, Session.deliver_generator, Session.deliver_notices]
    exact Generator.spans_retryFrom _ s.generator 0 _
  | batch threads perThread policy =>
    simp only [perform, Session.step, Session.deliver_generator, Session.deliver_notices]
    exact Generator.spans_generateBatch policy fraction s.generator threads perThread
  | schedule threads perThread policy turns =>
    exact Pool.spans_run (Generator.Spans.refl s.generator) turns
  | force value => exact absurd ⟨value, rfl⟩ hd

end Deed

namespace Ledger

/-- Generations in a row, seen from a ledger. -/
theorem run_generations (l : Ledger) (n : Nat) :
    (l.run (List.replicate n .generate)).generator = l.generator.after n ∧
      (l.run (List.replicate n .generate)).log = l.log ++ l.generator.reported n := by
  induction n generalizing l with
  | zero => exact ⟨rfl, (List.append_nil _).symm⟩
  | succ n ih =>
    obtain ⟨hg, hn⟩ := ih (l.act .generate)
    refine ⟨hg, ?_⟩
    show ((l.act .generate).run (List.replicate n .generate)).log = _
    rw [hn]
    simp only [log, act, Generator.reported, List.append_assoc]

/-- What a row of generations leads to, the acts lead to as well. -/
theorem run_of_spans {l : Ledger} {g' : Generator} {notices : List Notice}
    (h : Generator.Spans l.generator g' notices) :
    let acts := List.replicate (g'.sources.clockCalls - l.generator.sources.clockCalls) .generate
    (l.run acts).generator = g' ∧ (l.run acts).log = l.log ++ notices := by
  obtain ⟨hg, hn⟩ := h.count
  obtain ⟨hrun, hlog⟩ := l.run_generations (g'.sources.clockCalls - l.generator.sources.clockCalls)
  exact ⟨hrun.trans hg.symm, hlog.trans (by rw [hn])⟩

/-- A deed and its acts lead to the same generator and the same log. -/
theorem run_acts (fraction : Binary64) {l : Ledger} {s : Session} (hl : l.generator = s.generator)
    (d : Deed) :
    (l.run (d.acts fraction s)).generator = (d.perform fraction s).2.generator ∧
      (l.run (d.acts fraction s)).log = l.log ++ (d.perform fraction s).1 := by
  by_cases hd : ∃ value, d = .force value
  · obtain ⟨value, rfl⟩ := hd
    show (l.act (.force value)).generator = _ ∧ (l.act (.force value)).log = _
    cases hf : s.generator.counter.force value with
    | ok counter =>
      simp only [Deed.perform, Session.step, act, hl, hf]
      exact ⟨rfl, rfl⟩
    | error rejection =>
      have hf' : l.generator.counter.force value = .error rejection := by rw [hl, hf]
      simp only [Deed.perform, Session.step, act, hf, hf']
      exact ⟨hl, (List.append_nil _).symm⟩
  · have hspans := Deed.spans fraction s hd
    rw [Deed.acts_of_not_force fraction s hd]
    rw [← hl] at hspans ⊢
    exact run_of_spans hspans

/-- Deeds and their acts lead to the same generator and the same log. -/
theorem run_history (fraction : Binary64) {l : Ledger} {s : Session}
    (hl : l.generator = s.generator) (deeds : List Deed) :
    (l.run (Deed.history fraction s deeds)).generator =
        (Deed.play fraction s deeds).2.generator ∧
      (l.run (Deed.history fraction s deeds)).log =
        l.log ++ (Deed.play fraction s deeds).1 := by
  induction deeds generalizing l s with
  | nil => exact ⟨hl, (List.append_nil _).symm⟩
  | cons d rest ih =>
    obtain ⟨hg, hn⟩ := run_acts fraction hl d
    obtain ⟨hrun, hlog⟩ := ih hg
    unfold Deed.history
    rw [run_append]
    refine ⟨hrun, ?_⟩
    rw [hlog, hn, List.append_assoc]
    rfl

end Ledger

/-! ## Conservation -/

theorem Counter.new_of_inRange {ceiling start : Int} (hc : 1 ≤ ceiling)
    (hs : Counter.InRange ceiling start) :
    Counter.new (.int ceiling) start = .ok ⟨ceiling, start⟩ := by
  simp [Counter.new, Counter.ceiling?, hc, hs]

/-- **Conservation.** A counter with a ceiling of at least one and a start in range can be made,
and whatever is done with a generator on it from there on, generations and values set in any
order by any number of callers, and whatever its clock and random source answer, the closed form
holds after every act. A run of deeds is such a row of acts. -/
theorem counter_conservation {ceiling start : Int} (hc : 1 ≤ ceiling)
    (hs : 0 ≤ start ∧ start ≤ ceiling + 1) (sources : Sources) :
    Counter.new (.int ceiling) start = .ok ⟨ceiling, start⟩ ∧
    (∀ acts : List Act,
      ((Ledger.opened ⟨⟨ceiling, start⟩, sources⟩).run acts).Conserved ceiling) ∧
    ∀ (fraction : Binary64) (deeds : List Deed),
      let s : Session := ⟨⟨⟨ceiling, start⟩, sources⟩, []⟩
      let l := (Ledger.opened s.generator).run (Deed.history fraction s deeds)
      l.generator = (Deed.play fraction s deeds).2.generator ∧
        l.log = (Deed.play fraction s deeds).1 := by
  refine ⟨Counter.new_of_inRange hc hs, fun acts => ?_, fun fraction deeds => ?_⟩
  · exact ((Ledger.balanced_opened hc hs sources).run acts).conserved
  · exact Ledger.run_history fraction rfl deeds

/-- A counter that waits at one above its ceiling starts again only with the first success; a
clock that fails and a value that is out of range leave it waiting. -/
theorem counter_conservation_pending :
    let moment : Moment := ⟨.mk 2026 7 17, .mk 12 0 0 0, none⟩
    let sources := Sources.new ⟨.raised "no time", [.reading moment]⟩
      (.scripted ⟨.value (.int 100000), []⟩)
    let l := (Ledger.opened ⟨⟨1, 2⟩, sources⟩).run
      [.generate, .force 3, .generate, .generate, .generate]
    l.Conserved 1 ∧ l.value = 1 ∧ l.resets = 2 ∧ l.entries.length = 3 := by
  intro moment sources l
  refine ⟨?_, by decide +kernel, by decide +kernel, by decide +kernel⟩
  exact (counter_conservation (by decide) (by decide) sources).2.1 _

end Sequencer

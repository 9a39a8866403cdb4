import Mathlib.Tactic.Common
import Sequencer.Proofs.Batches
import Sequencer.Proofs.Schema

/-!
# From accepted settings to a generator that works

The ceiling is checked by the schema and by the counter, and the name of the clock by the schema
and where a clock is looked up; each pair of checks agrees on every value. So settings that the
schema accepts always make a generator. Its counter stays sound and its random source never runs
out, whatever is done with it, so from then on only a clock reading without a stamp can make a
generation fail.
-/

namespace Sequencer

/-! ## Checks that are made twice -/

theorem Counter.ceiling?_eq_some_iff {value : Value} {n : Int} :
    Counter.ceiling? value = some n ↔ value = .int n ∧ 1 ≤ n := by
  unfold Counter.ceiling?
  split
  · rename_i m
    split
    · rename_i hm
      simp only [Option.some.injEq, Value.scalar.injEq, Scalar.int.injEq, iff_self_and]
      rintro rfl
      exact hm
    · rename_i hm
      simp only [reduceCtorEq, Value.scalar.injEq, Scalar.int.injEq, false_iff, not_and]
      rintro rfl
      exact hm
  · rename_i hother
    simp only [reduceCtorEq, false_iff, not_and]
    intro h
    exact absurd h (hother n)

/-- A counter that starts from zero can be made with a value iff the value is an integer of at
least one. -/
theorem Counter.new_zero_eq_ok_iff {value : Value} {c : Counter} :
    Counter.new value 0 = .ok c ↔ ∃ n, value = .int n ∧ 1 ≤ n ∧ c = ⟨n, 0⟩ := by
  constructor
  · intro h
    unfold Counter.new at h
    split at h
    · cases h
    · rename_i n hn
      obtain ⟨hvalue, hpos⟩ := Counter.ceiling?_eq_some_iff.mp hn
      split at h
      · cases h
        exact ⟨n, hvalue, hpos, rfl⟩
      · cases h
  · rintro ⟨n, rfl, hpos, rfl⟩
    exact Counter.new_of_inRange hpos ⟨Int.le_refl 0, by omega⟩

/-- The names of the clocks are those under which a clock is found. -/
theorem ClockMode.exists_ofName?_iff {name : String} :
    (∃ mode, ClockMode.ofName? name = some mode) ↔ name ∈ clockNames := by
  constructor
  · rintro ⟨mode, h⟩
    unfold ofName? at h
    split at h
    · decide
    · decide
    · cases h
  · intro h
    simp only [clockNames, List.mem_cons, List.not_mem_nil, or_false] at h
    rcases h with rfl | rfl
    · exact ⟨.local, rfl⟩
    · exact ⟨.utc, rfl⟩

/-! ## Building -/

theorem Generator.build_of_accepted {settings : Settings} (hpos : 1 ≤ settings.ceiling)
    (hclock : settings.clock ∈ clockNames) (clock : ClockMode → Script ClockAnswer)
    (system : RandomSource) :
    ∃ mode, ClockMode.ofName? settings.clock = some mode ∧
      Generator.build settings clock system =
        .ok ⟨⟨settings.ceiling, 0⟩, .new (clock mode) (settings.source system)⟩ := by
  obtain ⟨mode, hmode⟩ := ClockMode.exists_ofName?_iff.mpr hclock
  refine ⟨mode, hmode, ?_⟩
  unfold Generator.build
  rw [Counter.new_zero_eq_ok_iff.mpr ⟨_, rfl, hpos, rfl⟩, hmode]

/-- A source that is made of a seed needs no assumption. -/
theorem Settings.neverFails_source {settings : Settings} {system : RandomSource}
    (h : system.NeverFails) : (settings.source system).NeverFails := by
  unfold Settings.source
  split
  · split
    · trivial
    · exact h
  · exact h

/-! ## Every later generation -/

/-- A generation asks the random source once or not at all. -/
theorem Generator.random_of_generate (g : Generator) :
    g.generate.generator.sources.random = g.sources.random ∨
      g.generate.generator.sources.random = g.sources.random.next.2 := by
  cases hs : g.reading.stamp with
  | error fault =>
    rw [generate_of_noStamp hs]
    exact .inl rfl
  | ok stamp =>
    cases hr : g.answer.suffix with
    | error fault =>
      rw [generate_of_noSuffix hs hr]
      exact .inr rfl
    | ok suffix =>
      cases hw : Identifier.wellFormed g.counter.ceiling (g.counter.compose stamp suffix) with
      | false =>
        rw [generate_of_malformed hs hr hw]
        exact .inr rfl
      | true =>
        rw [generate_of_wellFormed hs hr hw]
        exact .inr rfl

namespace Ledger

variable {l : Ledger}

theorem neverFails_act (h : l.generator.sources.random.NeverFails) (a : Act) :
    (l.act a).generator.sources.random.NeverFails := by
  cases a with
  | generate =>
    show l.generator.generate.generator.sources.random.NeverFails
    rcases l.generator.random_of_generate with heq | heq
    · rw [heq]
      exact h
    · rw [heq]
      exact h.next.2
  | force value =>
    by_cases hv : Counter.InRange l.generator.counter.ceiling value
    · rw [act_of_inRange hv]
      exact h
    · rw [act_of_not_inRange hv]
      exact h

theorem neverFails_run (h : l.generator.sources.random.NeverFails) (acts : List Act) :
    (l.run acts).generator.sources.random.NeverFails := by
  induction acts generalizing l with
  | nil => exact h
  | cons a rest ih => exact ih (neverFails_act h a)

/-- With a random source that never fails, a balanced ledger lacks nothing for an identifier but a
stamp. -/
theorem Balanced.exists_identifier {ceiling : Int} (h : l.Balanced ceiling)
    (hrandom : l.generator.sources.random.NeverFails) {m : Moment}
    (hreading : l.generator.reading = .reading m) (hyear : 1000 ≤ m.date.year) :
    ∃ identifier, l.generator.generate.result = .ok identifier ∧
      Identifier.wellFormed ceiling identifier = true := by
  have hs : l.generator.reading.stamp = .ok m.digits :=
    ClockAnswer.stamp_eq_ok_iff.mpr ⟨m, hreading, hyear, rfl⟩
  obtain ⟨suffix, hr⟩ := DrawAnswer.isSuffix_iff.mp hrandom.next.1
  have hr : l.generator.answer.suffix = .ok suffix := hr
  have hw := (Generator.wellFormed_compose_iff hs hr).mpr h.effective_nonneg
  refine ⟨_, by rw [Generator.generate_of_wellFormed hs hr hw], ?_⟩
  rw [← h.ceiling_eq]
  exact hw

end Ledger

/-- **Validation suffices.** The schema and the counter accept the same ceilings, and the schema
and the look-up of a clock the same names, of all values there are. Settings that the schema
accepts make a generator: its counter has the configured ceiling and starts from zero, and it reads
the configured clock. If the random source of the system never fails, then after any acts on the
generator, the next generation succeeds whenever the clock shows a moment of a year from 1000
on. -/
theorem accepted_builds :
    (∀ (value : Value) (c : Counter), Counter.new value 0 = .ok c ↔
      ∃ n, Schema.integer "generator.max_per_msec_size" 1 value = .ok n ∧ c = ⟨n, 0⟩) ∧
    (∀ (value : Value) (name : String),
      Schema.name "generator.clock" clockNames value = .ok name ↔
        value = .text name ∧ ∃ mode, ClockMode.ofName? name = some mode) ∧
    ∀ (lenient : Bool) (value : Value) (settings : Settings),
      Settings.ofValue lenient value = .ok settings →
      ∀ (clock : ClockMode → Script ClockAnswer) (system : RandomSource),
        ∃ g mode, Generator.build settings clock system = .ok g ∧
          g.counter = ⟨settings.ceiling, 0⟩ ∧
          ClockMode.ofName? settings.clock = some mode ∧ g.sources.clock = clock mode ∧
          (system.NeverFails → ∀ (acts : List Act) (m : Moment),
            let later := ((Ledger.opened g).run acts).generator
            later.reading = .reading m → 1000 ≤ m.date.year →
              ∃ identifier, later.generate.result = .ok identifier ∧
                Identifier.wellFormed settings.ceiling identifier = true) := by
  refine ⟨fun value c => ?_, fun value name => ?_, fun lenient value settings h clock system => ?_⟩
  · simp only [Counter.new_zero_eq_ok_iff, Schema.integer_eq_ok_iff, and_assoc]
  · rw [Schema.name_eq_ok_iff, ClockMode.exists_ofName?_iff]
  · obtain ⟨_, _, _, _, hdescribes⟩ := Settings.ofValue_eq_ok_iff.mp h
    obtain ⟨mode, hmode, hbuild⟩ := Generator.build_of_accepted
      hdescribes.inGenerator.ceiling_pos hdescribes.inGenerator.clock_mem clock system
    refine ⟨_, mode, hbuild, rfl, hmode, rfl, ?_⟩
    intro hsystem acts m later hreading hyear
    have hpos := hdescribes.inGenerator.ceiling_pos
    have hbalanced := (Ledger.balanced_opened hpos ⟨Int.le_refl 0, by omega⟩
      (.new (clock mode) (settings.source system))).run acts
    have hrandom : later.sources.random.NeverFails :=
      Ledger.neverFails_run (Settings.neverFails_source hsystem) acts
    exact hbalanced.exists_identifier hrandom hreading hyear

/-- A generator of the system's random source still makes identifiers after its counter was set to
one above the ceiling. -/
theorem accepted_builds_pending :
    let value := Value.ofFields [
      ("generator", .ofFields [("max_per_msec_size", .int 9), ("clock", .text "utc"),
        ("random_source", .text "system")]),
      ("retry", .ofFields [("max_attempts", .int 1), ("initial_wait", .int 0),
        ("max_wait", .int 0)])]
    let moment : Moment := ⟨.mk 1000 1 1, .mk 0 0 0 0, some 0⟩
    let system := RandomSource.scripted ⟨.value (.int 100000), []⟩
    ∃ settings g, Settings.ofValue false value = .ok settings ∧
      Generator.build settings (fun _ => ⟨.reading moment, []⟩) system = .ok g ∧
      ∃ identifier,
        ((Ledger.opened g).run [.force 10]).generator.generate.result = .ok identifier ∧
        Identifier.wellFormed 9 identifier = true := by
  intro value moment system
  have haccepted : Settings.ofValue false value =
      .ok ⟨9, "utc", "system", none, ⟨1, .float .zero, .float .zero⟩⟩ := by decide +kernel
  obtain ⟨g, mode, hbuild, hcounter, hmode, hclock, hlater⟩ :=
    accepted_builds.2.2 false value _ haccepted (fun _ => ⟨.reading moment, []⟩) system
  refine ⟨_, g, haccepted, hbuild, ?_⟩
  have hnever : system.NeverFails := by
    simp [system, RandomSource.NeverFails, Script.All, DrawAnswer.IsSuffix]
  refine hlater hnever [.force 10] moment ?_ (by decide)
  cases hbuild
  rfl

end Sequencer

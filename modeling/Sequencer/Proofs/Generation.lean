import Sequencer.Run.Trace
import Sequencer.Proofs.Layout

/-!
# The exits of one generation

A generation asks the clock, then perhaps the random source, and ends in one of four ways. There
is one equation for each of them (`generate_of_noStamp`, `generate_of_noSuffix`,
`generate_of_malformed`, `generate_of_wellFormed`), and nothing else happens
(`generate_cases`): later proofs take a generation apart with these and never unfold it.
`generate_atomic` says in terms of the answers and the counter's state, which may be any two
integers, which exit is taken, and what it leaves behind.
-/

namespace Sequencer

open Text

/-- The answer is a moment whose rendering has seventeen digits and nothing else. -/
def ClockAnswer.Renders (answer : ClockAnswer) : Prop :=
  ∃ m, answer = .reading m ∧ m.digits.length = 17 ∧ m.digits.all Char.isDigit = true

/-- The answer is an integer in the range of suffixes. -/
def DrawAnswer.IsSuffix (answer : DrawAnswer) : Prop :=
  ∃ n : Int, answer = .value (.int n) ∧ 100000 ≤ n ∧ n ≤ 999999

theorem ClockAnswer.renders_iff {answer : ClockAnswer} :
    answer.Renders ↔ ∃ stamp, answer.stamp = .ok stamp := by
  constructor
  · rintro ⟨m, rfl, hwidth, -⟩
    exact ⟨m.digits, ClockAnswer.stamp_eq_ok_iff.mpr
      ⟨m, rfl, m.length_digits_eq_iff.mp hwidth, rfl⟩⟩
  · rintro ⟨stamp, h⟩
    obtain ⟨m, rfl, hyear, rfl⟩ := ClockAnswer.stamp_eq_ok_iff.mp h
    exact ⟨m, rfl, m.length_digits_eq_iff.mpr hyear, ClockAnswer.isDigit_of_stamp h⟩

theorem DrawAnswer.isSuffix_iff {answer : DrawAnswer} :
    answer.IsSuffix ↔ ∃ suffix, answer.suffix = .ok suffix := by
  constructor
  · rintro ⟨n, rfl, low, high⟩
    obtain ⟨suffix, rfl⟩ := Int.eq_ofNat_of_zero_le (by omega : 0 ≤ n)
    have hmin : suffixMin ≤ suffix := by unfold suffixMin; omega
    have hmax : suffix ≤ suffixMax := by unfold suffixMax; omega
    exact ⟨suffix, DrawAnswer.suffix_eq_ok_iff.mpr ⟨rfl, hmin, hmax⟩⟩
  · rintro ⟨suffix, h⟩
    obtain ⟨rfl, hmin, hmax⟩ := DrawAnswer.suffix_eq_ok_iff.mp h
    unfold suffixMin at hmin
    unfold suffixMax at hmax
    exact ⟨suffix, rfl, by omega, by omega⟩

/-- A source that gives no suffix is to blame for it. -/
theorem DrawAnswer.kind_of_suffix {answer : DrawAnswer} {fault : GenerationFault}
    (h : answer.suffix = .error fault) : fault.kind = .randomSource := by
  unfold DrawAnswer.suffix at h
  split at h
  · split at h
    · cases h
    · cases h; rfl
  · cases h; rfl
  · cases h; rfl

namespace Generator

/-- What the clock answers to the next generation. -/
def reading (g : Generator) : ClockAnswer := g.sources.readClock.1

/-- What the random source answers to the next generation if it is asked. -/
def answer (g : Generator) : DrawAnswer := g.sources.readClock.2.draw.1

/-- The sources once the clock was asked. -/
def clockAsked (g : Generator) : Sources := g.sources.readClock.2

/-- The sources once the clock and then the random source were asked. -/
def bothAsked (g : Generator) : Sources := g.sources.readClock.2.draw.2

/-! ## One equation for each exit -/

section

variable {g : Generator} {stamp : List Char} {suffix : Nat}

theorem generate_of_noStamp {fault : ClockFault} (h : g.reading.stamp = .error fault) :
    g.generate = {
      result := .error (.clock fault)
      generator := { g with sources := g.clockAsked }
      notices := [.failed (.clock fault)] } := by
  unfold reading at h
  simp only [generate, attempt, h, Counter.notices]
  rfl

theorem generate_of_noSuffix {fault : GenerationFault} (hs : g.reading.stamp = .ok stamp)
    (h : g.answer.suffix = .error fault) :
    g.generate = {
      result := .error fault
      generator := { g with sources := g.bothAsked }
      notices := [.failed fault] } := by
  unfold reading at hs
  unfold answer at h
  simp only [generate, attempt, hs, h, Counter.notices]
  rfl

theorem generate_of_malformed (hs : g.reading.stamp = .ok stamp)
    (hr : g.answer.suffix = .ok suffix)
    (h : Identifier.wellFormed g.counter.ceiling (g.counter.compose stamp suffix) = false) :
    g.generate = {
      result := .error (.malformed (g.counter.compose stamp suffix))
      generator := { g with sources := g.bothAsked }
      notices := [.failed (.malformed (g.counter.compose stamp suffix))] } := by
  unfold reading at hs
  unfold answer at hr
  simp only [generate, attempt, hs, hr, Counter.commit, h, Counter.notices]
  rfl

theorem generate_of_wellFormed (hs : g.reading.stamp = .ok stamp)
    (hr : g.answer.suffix = .ok suffix)
    (h : Identifier.wellFormed g.counter.ceiling (g.counter.compose stamp suffix) = true) :
    g.generate = {
      result := .ok (g.counter.compose stamp suffix)
      generator := ⟨{ g.counter with value := g.counter.effective + 1 }, g.bothAsked⟩
      notices := if g.counter.wraps then [.counterReset] else [] } := by
  unfold reading at hs
  unfold answer at hr
  simp only [generate, attempt, hs, hr, Counter.commit, h, Counter.notices]
  rfl

end

/-- The composed text passes the check iff the counter does not put a minus sign into it. -/
theorem wellFormed_compose_iff {g : Generator} {stamp : List Char} {suffix : Nat}
    (hs : g.reading.stamp = .ok stamp) (hr : g.answer.suffix = .ok suffix) :
    Identifier.wellFormed g.counter.ceiling (g.counter.compose stamp suffix) = true ↔
      0 ≤ g.counter.effective := by
  obtain ⟨-, hmin, hmax⟩ := DrawAnswer.suffix_eq_ok_iff.mp hr
  rw [Counter.compose_eq_spelled]
  exact Identifier.wellFormed_spelled_iff (ClockAnswer.length_of_stamp hs)
    (ClockAnswer.isDigit_of_stamp hs) hmin hmax g.counter.effective_fits

/-- What a generation can do: it fails, leaves the counter alone and reports the fault, or it
delivers what stamp, counter and suffix compose, and moves the counter on. -/
theorem generate_cases (g : Generator) :
    (∃ fault sources, g.generate = {
        result := .error fault
        generator := { g with sources }
        notices := [.failed fault] } ∧
      ((∃ identifier, fault = .malformed identifier) → g.counter.effective < 0)) ∨
    (∃ stamp suffix, g.reading.stamp = .ok stamp ∧ g.answer.suffix = .ok suffix ∧
      0 ≤ g.counter.effective ∧ g.generate = {
        result := .ok (g.counter.compose stamp suffix)
        generator := ⟨{ g.counter with value := g.counter.effective + 1 }, g.bothAsked⟩
        notices := if g.counter.wraps then [.counterReset] else [] }) := by
  cases hs : g.reading.stamp with
  | error fault =>
    refine .inl ⟨_, _, generate_of_noStamp hs, ?_⟩
    rintro ⟨identifier, h⟩
    cases h
  | ok stamp =>
    cases hr : g.answer.suffix with
    | error fault =>
      refine .inl ⟨_, _, generate_of_noSuffix hs hr, ?_⟩
      rintro ⟨identifier, rfl⟩
      exact absurd (DrawAnswer.kind_of_suffix hr) (by simp [GenerationFault.kind])
    | ok suffix =>
      have hiff := wellFormed_compose_iff hs hr
      cases hw : Identifier.wellFormed g.counter.ceiling (g.counter.compose stamp suffix) with
      | false =>
        refine .inl ⟨_, _, generate_of_malformed hs hr hw, fun _ => ?_⟩
        rw [hw] at hiff
        simp at hiff
        exact hiff
      | true => exact .inr ⟨stamp, suffix, rfl, rfl, hiff.mp hw, generate_of_wellFormed hs hr hw⟩

/-! ## Atomicity -/

/-- The generation fails with a fault of the kind, leaves the counter exactly as it was and the
sources as given, and is logged as one error with the kind's code. -/
def FailsAs (g : Generator) (kind : FailureKind) (sources : Sources) : Prop :=
  ∃ fault, fault.kind = kind ∧ g.generate.result = .error fault ∧
    g.generate.generator = { g with sources } ∧
    g.generate.notices.map Notice.record = [{
      level := .error
      message := "sequence generation failed: " ++ fault.message
      fields := [("event", .text "GENERATE_FAIL"), ("status", .text "error"),
        ("error_code", .text kind.code)]
      exception := none }]

/-- The generation delivers an identifier that is well formed under the ceiling, sets the value
to one more than it was made of, and logs only that the counter started again, if it did. -/
def Delivers (g : Generator) : Prop :=
  ∃ identifier, g.generate.result = .ok identifier ∧
    Identifier.wellFormed g.counter.ceiling identifier = true ∧
    g.generate.generator = {
      counter := {
        ceiling := g.counter.ceiling
        value := (if g.counter.value > g.counter.ceiling then 0 else g.counter.value) + 1 }
      sources := g.bothAsked } ∧
    g.generate.notices.map Notice.record =
      if g.counter.value > g.counter.ceiling then [{
        level := .debug
        message := "counter reset"
        fields := [("event", .text "COUNTER_RESET"), ("status", .text "ok")]
        exception := none }]
      else []

theorem failsAs_of_generate {g : Generator} {fault : GenerationFault} {kind : FailureKind}
    {sources : Sources} (hk : fault.kind = kind)
    (h : g.generate = {
      result := .error fault, generator := { g with sources }, notices := [.failed fault] }) :
    g.FailsAs kind sources := by
  subst hk
  refine ⟨fault, rfl, ?_, ?_, ?_⟩
  all_goals rw [h]
  rfl

theorem delivers_of_generate {g : Generator} {stamp : List Char} {suffix : Nat}
    (hw : Identifier.wellFormed g.counter.ceiling (g.counter.compose stamp suffix) = true)
    (h : g.generate = {
      result := .ok (g.counter.compose stamp suffix)
      generator := ⟨{ g.counter with value := g.counter.effective + 1 }, g.bothAsked⟩
      notices := if g.counter.wraps then [.counterReset] else [] }) :
    g.Delivers := by
  refine ⟨_, by rw [h], hw, by rw [h]; rfl, ?_⟩
  rw [h]
  by_cases hv : g.counter.value > g.counter.ceiling
  · simp [Counter.wraps, hv, Notice.record]
  · simp [Counter.wraps, hv]

/-- **Atomic, typed failure.** Whatever two integers the counter holds and whatever clock and
random source answer, a generation asks the clock once and takes the exit that the answers and
the counter decide: no stamp, no suffix, a negative value that is taken as it is, or none of
these. Each failure has its own kind and leaves the counter untouched, a pending new start
included. -/
theorem generate_atomic (g : Generator) :
    g.generate.generator.sources.clockCalls = g.sources.clockCalls + 1 ∧
    ((¬ g.reading.Renders ∧ g.FailsAs .clockFormat g.clockAsked ∧
        g.generate.generator.sources.drawCalls = g.sources.drawCalls) ∨
      (g.reading.Renders ∧
        g.generate.generator.sources.drawCalls = g.sources.drawCalls + 1 ∧
        ((¬ g.answer.IsSuffix ∧ g.FailsAs .randomSource g.bothAsked) ∨
          (g.answer.IsSuffix ∧
            (((g.counter.value < 0 ∧ g.counter.value ≤ g.counter.ceiling) ∧
                g.FailsAs .contract g.bothAsked) ∨
              (¬ (g.counter.value < 0 ∧ g.counter.value ≤ g.counter.ceiling) ∧
                g.Delivers)))))) := by
  rw [ClockAnswer.renders_iff, DrawAnswer.isSuffix_iff]
  cases hs : g.reading.stamp with
  | error fault =>
    have h := generate_of_noStamp hs
    refine ⟨by rw [h]; rfl, .inl ⟨by simp, failsAs_of_generate rfl h, by rw [h]; rfl⟩⟩
  | ok stamp =>
    cases hr : g.answer.suffix with
    | error fault =>
      have h := generate_of_noSuffix hs hr
      exact ⟨by rw [h]; rfl, .inr ⟨⟨stamp, rfl⟩, by rw [h]; rfl,
        .inl ⟨by simp, failsAs_of_generate (DrawAnswer.kind_of_suffix hr) h⟩⟩⟩
    | ok suffix =>
      -- Stamp and suffix are digits of full width: only the counter can break the layout.
      have hiff := wellFormed_compose_iff hs hr
      rw [Counter.effective_nonneg_iff] at hiff
      cases hw : Identifier.wellFormed g.counter.ceiling (g.counter.compose stamp suffix) with
      | false =>
        have h := generate_of_malformed hs hr hw
        have hneg : g.counter.value < 0 ∧ g.counter.value ≤ g.counter.ceiling := by
          simpa [hw] using hiff
        exact ⟨by rw [h]; rfl, .inr ⟨⟨stamp, rfl⟩, by rw [h]; rfl,
          .inr ⟨⟨suffix, rfl⟩, .inl ⟨hneg, failsAs_of_generate rfl h⟩⟩⟩⟩
      | true =>
        have h := generate_of_wellFormed hs hr hw
        exact ⟨by rw [h]; rfl, .inr ⟨⟨stamp, rfl⟩, by rw [h]; rfl,
          .inr ⟨⟨suffix, rfl⟩, .inr ⟨hiff.mp hw, delivers_of_generate hw h⟩⟩⟩⟩

end Generator

end Sequencer

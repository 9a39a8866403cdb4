import Sequencer.Proofs.Schema
import Sequencer.Proofs.Values

/-!
# The ranges of accepted settings

The checks of the schema refuse a number that is less than its bound. For integers this bounds
them from below. A wait is bounded as well, after it was rounded to a double, unless a `.nan`
takes part: it is not less than any number, so it passes every check of this kind.
-/

namespace Sequencer

open Binary64 (zero)

/-! ## Waits -/

namespace Schema

/-- The double of a number is not a number only if the number is not. -/
theorem isNumber_iff_of_toBinary64? {n : Number} {wait : Binary64}
    (h : n.toBinary64? = some wait) : wait.isNumber = true ↔ n ≠ .float .nan := by
  cases n with
  | int n =>
    have hfinite := (Binary64.ofInt?_eq_some h).1
    cases wait with
    | finite negative units => simp [Binary64.isNumber]
    | infinite negative => cases hfinite
    | nan => cases hfinite
  | float x =>
    cases h
    cases wait <;> simp [Binary64.isNumber]

theorem IsWait.isNumber_iff {minimum wait : Binary64} {value : Option Value}
    (h : IsWait minimum value wait) : wait.isNumber = true ↔ value ≠ some (.float .nan) := by
  obtain ⟨v, n, rfl, hn, -, hwait⟩ := h
  obtain rfl := number?_eq_some_iff.mp hn
  rw [isNumber_iff_of_toBinary64? hwait, not_iff_not, Option.some.injEq]
  cases n <;> simp [Number.toValue]

/-- The wait of a proper value is a double. -/
theorem IsWait.isDouble {minimum wait : Binary64} {value : Value}
    (h : IsWait minimum (some value) wait) (hproper : value.Proper) : wait.IsDouble := by
  obtain ⟨_, n, ⟨⟩, hn, -, hwait⟩ := h
  obtain rfl := number?_eq_some_iff.mp hn
  cases n with
  | int n => exact (Binary64.ofInt?_eq_some hwait).2.2
  | float x =>
    cases hwait
    exact hproper _ rfl

/-- A wait is at least its bound iff both are numbers. -/
theorem IsWait.lessEq_iff {minimum wait : Binary64} {value : Option Value}
    (h : IsWait minimum value wait) (hminimum : minimum.IsDouble) :
    minimum.lessEq wait = true ↔ minimum.isNumber = true ∧ wait.isNumber = true := by
  constructor
  · intro hle
    have hle := Binary64.lessEq_iff.mp hle
    exact ⟨hle.1, hle.2.1⟩
  · rintro ⟨hnumber, hnumber'⟩
    obtain ⟨_, n, -, -, hless, hwait⟩ := h
    cases n with
    | int n => exact Binary64.lessEq_ofInt? hminimum hnumber hless hwait
    | float x =>
      cases hwait
      exact Binary64.lessEq_iff.mpr ⟨hnumber, hnumber', hless⟩

end Schema

/-! ## Accepted settings -/

/-- The settings that the schema accepts in a proper value, such as YAML yields
(`Yaml.proper_of_read`), are in their ranges, whichever keys are allowed. For the waits this holds
iff no `.nan` is given: the first wait is at least zero iff it is not given as `.nan`, and the last
wait is at least the first iff neither is. -/
theorem accepted_in_range {lenient : Bool} {value : Value} {settings : Settings}
    (hproper : value.Proper) (h : Settings.ofValue lenient value = .ok settings) :
    1 ≤ settings.ceiling ∧ 1 ≤ settings.retry.maxAttempts ∧
    settings.clock ∈ ["local", "utc"] ∧ settings.randomSource ∈ ["system", "seeded"] ∧
    (∀ seed, settings.seed = some seed → 0 ≤ seed ∧ settings.randomSource = "seeded") ∧
    ∃ initialWait maxWait : Binary64,
      settings.retry.initialWait = .float initialWait ∧
      settings.retry.maxWait = .float maxWait ∧
      (zero.lessEq initialWait = true ↔
        value.at? [.text "retry", .text "initial_wait"] ≠ some (.float .nan)) ∧
      (initialWait.lessEq maxWait = true ↔
        value.at? [.text "retry", .text "initial_wait"] ≠ some (.float .nan) ∧
        value.at? [.text "retry", .text "max_wait"] ≠ some (.float .nan)) := by
  obtain ⟨generator, retry, initialWait, maxWait, h⟩ := Settings.ofValue_eq_ok_iff.mp h
  have hwaits := h.waits
  have hretry : (Value.map retry).Proper := Value.Each.field? hproper h.retryAt
  have hinitial := h.inRetry.initialWaitAt
  have hmax := h.inRetry.maxWaitAt
  have hdouble : initialWait.IsDouble := by
    obtain ⟨v, _, hget, -⟩ := id hinitial
    rw [hget] at hinitial
    exact hinitial.isDouble (Value.Each.get? hretry hget)
  refine ⟨h.inGenerator.ceiling_pos, h.inRetry.maxAttempts_pos, h.inGenerator.clock_mem,
    h.inGenerator.randomSource_mem, ?_, initialWait, maxWait, ?_, ?_, ?_, ?_⟩
  · intro seed hseed
    have hat := h.inGenerator.seedAt
    rw [hseed] at hat
    exact hat.2
  · rw [hwaits]
  · rw [hwaits]
  · rw [hinitial.lessEq_iff (Binary64.isDouble_zero false), hinitial.isNumber_iff,
      Value.at?_of_field? h.retryAt]
    exact and_iff_right rfl
  · rw [hmax.lessEq_iff hdouble, hinitial.isNumber_iff, hmax.isNumber_iff,
      Value.at?_of_field? h.retryAt, Value.at?_of_field? h.retryAt]

/-- A configuration with these waits and otherwise plain settings. -/
def configWithWaits (initialWait maxWait : Value) : Value :=
  .ofFields [
    ("generator", .ofFields [("max_per_msec_size", .int 1000), ("clock", .text "local"),
      ("random_source", .text "seeded"), ("seed", .int 42)]),
    ("retry", .ofFields [("max_attempts", .int 3), ("initial_wait", initialWait),
      ("max_wait", maxWait)])]

/-- Waits of zero and without end are accepted, and in range. -/
theorem accepted_in_range_endless :
    ∃ settings, Settings.ofValue false (configWithWaits (.int 0) (.float (.infinite false))) =
      .ok settings ∧ 1 ≤ settings.ceiling ∧
      ∃ initialWait maxWait : Binary64, settings.retry.initialWait = .float initialWait ∧
        settings.retry.maxWait = .float maxWait ∧ initialWait.lessEq maxWait = true := by
  have hproper : (configWithWaits (.int 0) (.float (.infinite false))).Proper := by
    simp [configWithWaits, Value.ofFields, Value.Proper, Value.Each, entriesEach]
  have haccepted : Settings.ofValue false (configWithWaits (.int 0) (.float (.infinite false))) =
      .ok ⟨1000, "local", "seeded", some 42, ⟨3, .float .zero, .float (.infinite false)⟩⟩ := by
    decide +kernel
  obtain ⟨hceiling, -, -, -, -, initialWait, maxWait, hinitial, hmax, -, hle⟩ :=
    accepted_in_range hproper haccepted
  exact ⟨_, haccepted, hceiling, initialWait, maxWait, hinitial, hmax,
    hle.mpr (by simp [configWithWaits, Value.ofFields, Value.at?])⟩

/-- A first wait of `.nan` is accepted, and is not at least zero. -/
theorem nan_accepted :
    ∃ settings, Settings.ofValue false (configWithWaits (.float .nan) (.int 1)) = .ok settings ∧
      settings.retry.initialWait = .float .nan ∧ zero.lessEq .nan = false := by
  refine ⟨⟨1000, "local", "seeded", some 42, ⟨3, .float .nan, .float (.ofRatio false 1 1)⟩⟩,
    ?_, rfl, rfl⟩
  decide +kernel

end Sequencer

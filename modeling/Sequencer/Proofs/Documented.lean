import Sequencer.Proofs.Nearest
import Sequencer.Proofs.Unanswered

/-!
# The documented configurations

The schema checks a value rule by rule, compares numbers with its own comparison and rounds waits
on the way. `Documented` says what comes out of this in terms of the value alone: where something
stands, what it must be, and what the settings then are, with numbers compared by what they are
worth and waits as the nearest doubles. A value with texts as keys, without a `.nan` and with waits
that are not too large is accepted iff it is documented, with these settings, and refused with a
fault otherwise.
-/

namespace Sequencer

/-! ## What is documented -/

/-- The value is a mapping with these keys, and besides them it has at most the optional ones. -/
def Value.HasKeys (required optional : List String) (value : Value) : Prop :=
  ∃ entries, value = .map entries ∧
    (∀ name ∈ required, .text name ∈ entries.map Prod.fst) ∧
    ∀ key ∈ entries.map Prod.fst, ∃ name ∈ required ++ optional, key = .text name

/-- The value is a number that is worth at least so much, and this is the double that it becomes
as a wait. -/
def GivesWait (bound : WithBot (WithTop ℚ)) (value : Option Value) (wait : Binary64) : Prop :=
  ∃ given : Number, value = some given.toValue ∧ bound ≤ given.exact ∧ given.Becomes wait

/-- The value is a configuration as documented, and these are its settings. -/
structure Documented (value : Value) (settings : Settings) : Prop where
  sections : value.HasKeys ["generator", "retry"] []
  generator : ∃ inner, value.field? "generator" = some inner ∧
    inner.HasKeys ["max_per_msec_size", "clock", "random_source"] ["seed"]
  retry : ∃ inner, value.field? "retry" = some inner ∧
    inner.HasKeys ["max_attempts", "initial_wait", "max_wait"] []
  ceiling : value.at? [.text "generator", .text "max_per_msec_size"] =
    some (.int settings.ceiling) ∧ 1 ≤ settings.ceiling
  clock : value.at? [.text "generator", .text "clock"] = some (.text settings.clock) ∧
    settings.clock ∈ ["local", "utc"]
  randomSource : value.at? [.text "generator", .text "random_source"] =
    some (.text settings.randomSource) ∧ settings.randomSource ∈ ["system", "seeded"]
  noSeed : settings.seed = none →
    value.at? [.text "generator", .text "seed"] ∈ [none, some .null]
  seed : ∀ n, settings.seed = some n →
    value.at? [.text "generator", .text "seed"] = some (.int n) ∧ 0 ≤ n ∧
      settings.randomSource = "seeded"
  maxAttempts : value.at? [.text "retry", .text "max_attempts"] =
    some (.int settings.retry.maxAttempts) ∧ 1 ≤ settings.retry.maxAttempts
  waits : ∃ initialWait maxWait : Binary64,
    settings.retry.initialWait = .float initialWait ∧ settings.retry.maxWait = .float maxWait ∧
    GivesWait 0 (value.at? [.text "retry", .text "initial_wait"]) initialWait ∧
    GivesWait (Number.float initialWait).exact (value.at? [.text "retry", .text "max_wait"]) maxWait

/-- The keys of the value are texts, it has no `.nan`, and its waits are not too large. -/
structure Value.Regular (value : Value) : Prop where
  textKeys : value.TextKeys
  noNan : value.Each (fun s => s ≠ .float .nan) fun _ => True
  waitsFit : ∀ key ∈ ["initial_wait", "max_wait"], ∀ n,
    value.at? [.text "retry", .text key] = some (.int n) → Binary64.ofInt? n ≠ none

/-! ## Keys -/

theorem hasKeys_map_iff {required optional : List String} {entries : Entries} :
    (Value.map entries).HasKeys required optional ↔
      Schema.Keyed required optional false entries := by
  constructor
  · rintro ⟨_, ⟨⟩, hpresent, hknown⟩
    exact ⟨fun name hname => Entries.hasKey_iff.mpr (hpresent name hname), fun _ => hknown⟩
  · intro h
    exact ⟨entries, rfl, fun name hname => Entries.hasKey_iff.mp (h.present name hname),
      h.known rfl⟩

/-! ## Waits -/

theorem Number.toBinary64?_eq_some_iff {n : Number} {x : Binary64}
    (hfits : ∀ m, n = .int m → Binary64.ofInt? m ≠ none) :
    n.toBinary64? = some x ↔ n.Becomes x := by
  cases n with
  | int n => exact Binary64.ofInt?_eq_some_iff_nearestTo (hfits n rfl)
  | float y =>
    rw [toBinary64?, Option.some.injEq, Becomes]
    exact eq_comm

/-- Numbers that are no `.nan` are not less iff they are worth at least as much. -/
theorem Number.not_less_iff {m n : Number} (hm : m ≠ .float .nan) (hn : n ≠ .float .nan) :
    m.less n = false ↔ n.exact ≤ m.exact := by
  rw [← Bool.not_eq_true, less_iff hm hn, not_lt]

/-- A wait that is worth at least something is a number. -/
theorem GivesWait.ne_nan {bound : WithBot (WithTop ℚ)} {value : Option Value} {wait : Binary64}
    (h : GivesWait bound value wait) (hbound : bound ≠ ⊥) : wait ≠ .nan := by
  obtain ⟨given, -, hworth, hbecomes⟩ := h
  rintro rfl
  cases given with
  | int n =>
    obtain ⟨_, hsigned⟩ := hbecomes.signed
    cases hsigned
  | float x =>
    obtain rfl : Binary64.nan = x := hbecomes
    exact hbound (le_bot_iff.mp hworth)

theorem isWait_iff_givesWait {bound wait : Binary64} {value : Option Value}
    (hbound : bound ≠ .nan) (hnan : value ≠ some (.float .nan))
    (hfits : ∀ n, value = some (.int n) → Binary64.ofInt? n ≠ none) :
    Schema.IsWait bound value wait ↔ GivesWait (Number.float bound).exact value wait := by
  have hbound' : Number.float bound ≠ .float .nan := fun h => hbound (Number.float.inj h)
  have hgiven : ∀ n : Number, value = some n.toValue → n ≠ .float .nan ∧
      ∀ m, n = .int m → Binary64.ofInt? m ≠ none := by
    rintro n rfl
    constructor
    · rintro rfl
      exact hnan rfl
    · rintro m rfl
      exact hfits m rfl
  constructor
  · rintro ⟨v, n, rfl, hn, hless, hwait⟩
    obtain rfl := Schema.number?_eq_some_iff.mp hn
    obtain ⟨hne, hfits⟩ := hgiven n rfl
    exact ⟨n, rfl, (Number.not_less_iff hne hbound').mp hless,
      (Number.toBinary64?_eq_some_iff hfits).mp hwait⟩
  · rintro ⟨n, hvalue, hworth, hbecomes⟩
    obtain ⟨hne, hfits⟩ := hgiven n hvalue
    exact ⟨n.toValue, n, hvalue, Schema.number?_eq_some_iff.mpr rfl,
      (Number.not_less_iff hne hbound').mpr hworth,
      (Number.toBinary64?_eq_some_iff hfits).mpr hbecomes⟩

/-! ## Accepting -/

theorem isSeed_iff {source : String} {value : Option Value} {seed : Option Int} :
    Schema.IsSeed source value seed ↔
      (seed = none → value ∈ [none, some .null]) ∧
        ∀ n, seed = some n → value = some (.int n) ∧ 0 ≤ n ∧ source = "seeded" := by
  cases seed <;> simp [Schema.IsSeed, seededName]

section

variable {value : Value} {settings : Settings}

theorem Value.Regular.isWait_iff (h : value.Regular) {retry : Entries}
    (hretry : value.field? "retry" = some (.map retry)) {key : String}
    (hkey : key ∈ ["initial_wait", "max_wait"]) {bound wait : Binary64} (hbound : bound ≠ .nan) :
    Schema.IsWait bound (Entries.get? (.text key) retry) wait ↔
      GivesWait (Number.float bound).exact (value.at? [.text "retry", .text key]) wait := by
  rw [Value.at?_of_field? hretry]
  refine isWait_iff_givesWait hbound ?_ ?_
  · intro hget
    exact Value.Each.get? (Value.Each.field? h.noNan hretry) hget rfl
  · intro n hget
    exact h.waitsFit key hkey n ((Value.at?_of_field? hretry).trans hget)

theorem documented_of_describes (h : value.Regular) {generator retry : Entries}
    {initialWait maxWait : Binary64}
    (hd : Schema.Describes false value settings generator retry initialWait maxWait) :
    Documented value settings := by
  have hg := hd.inGenerator
  have hr := hd.inRetry
  obtain ⟨entries, rfl, hsections⟩ := hd.sections
  have hinitial := (h.isWait_iff hd.retryAt (by simp) Binary64.zero_ne_nan).mp hr.initialWaitAt
  rw [Number.exact_zero] at hinitial
  have hmax := (h.isWait_iff hd.retryAt (by simp) (hinitial.ne_nan nofun)).mp hr.maxWaitAt
  obtain ⟨hnone, hsome⟩ := isSeed_iff.mp hg.seedAt
  simp only [← Value.at?_of_field? hd.generatorAt] at hnone hsome
  exact {
    sections := hasKeys_map_iff.mpr hsections
    generator := ⟨_, hd.generatorAt, hasKeys_map_iff.mpr hg.keyed⟩
    retry := ⟨_, hd.retryAt, hasKeys_map_iff.mpr hr.keyed⟩
    ceiling := ⟨(Value.at?_of_field? hd.generatorAt).trans hg.ceilingAt, hg.ceiling_pos⟩
    clock := ⟨(Value.at?_of_field? hd.generatorAt).trans hg.clockAt, hg.clock_mem⟩
    randomSource :=
      ⟨(Value.at?_of_field? hd.generatorAt).trans hg.randomSourceAt, hg.randomSource_mem⟩
    noSeed := hnone
    seed := hsome
    maxAttempts := ⟨(Value.at?_of_field? hd.retryAt).trans hr.maxAttemptsAt, hr.maxAttempts_pos⟩
    waits := ⟨initialWait, maxWait, by rw [hd.waits], by rw [hd.waits], hinitial, hmax⟩ }

theorem Documented.exists_describes (h : value.Regular) (hd : Documented value settings) :
    ∃ generator retry initialWait maxWait,
      Schema.Describes false value settings generator retry initialWait maxWait := by
  obtain ⟨_, hgenerator, ⟨generator, rfl, hgeneratorKeys⟩⟩ := hd.generator
  obtain ⟨_, hretry, ⟨retry, rfl, hretryKeys⟩⟩ := hd.retry
  obtain ⟨initialWait, maxWait, hinitial, hmax, hgivesInitial, hgivesMax⟩ := hd.waits
  obtain ⟨entries, rfl, hsections⟩ := hd.sections
  have hnumber := hgivesInitial.ne_nan nofun
  rw [← Number.exact_zero] at hgivesInitial
  have hseed := isSeed_iff.mpr ⟨hd.noSeed, hd.seed⟩
  have hceiling := hd.ceiling
  have hclock := hd.clock
  have hsource := hd.randomSource
  have hattempts := hd.maxAttempts
  rw [Value.at?_of_field? hgenerator] at hseed hceiling hclock hsource
  rw [Value.at?_of_field? hretry] at hattempts
  exact ⟨generator, retry, initialWait, maxWait, {
    sections := ⟨entries, rfl, hasKeys_map_iff.mp ⟨entries, rfl, hsections⟩⟩
    generatorAt := hgenerator
    retryAt := hretry
    waits := by rw [← hinitial, ← hmax]
    inGenerator := {
      keyed := hasKeys_map_iff.mp ⟨generator, rfl, hgeneratorKeys⟩
      ceilingAt := hceiling.1
      ceiling_pos := hceiling.2
      clockAt := hclock.1
      clock_mem := hclock.2
      randomSourceAt := hsource.1
      randomSource_mem := hsource.2
      seedAt := hseed }
    inRetry := {
      keyed := hasKeys_map_iff.mp ⟨retry, rfl, hretryKeys⟩
      maxAttemptsAt := hattempts.1
      maxAttempts_pos := hattempts.2
      initialWaitAt := (h.isWait_iff hretry (by simp) Binary64.zero_ne_nan).mpr hgivesInitial
      maxWaitAt := (h.isWait_iff hretry (by simp) hnumber).mpr hgivesMax } }⟩

/-! ## Refusing -/

theorem Schema.Unnamed.not_textKeys {required : List String} {entries : Entries}
    (h : Schema.Unnamed required entries) : ¬ (Value.map entries).TextKeys := by
  intro htext
  obtain ⟨key, hkey, hname⟩ := h.unnamed
  obtain ⟨name, rfl⟩ := htext.1 key hkey
  exact hname name rfl

theorem Schema.TooLarge.exists_int {minimum : Binary64} {value : Option Value}
    (h : Schema.TooLarge minimum value) :
    ∃ n, value = some (.int n) ∧ Binary64.ofInt? n = none := by
  obtain ⟨n, hvalue, hlarge, -⟩ := h
  exact ⟨n, hvalue, Binary64.ofInt?_eq_none_iff.mpr hlarge⟩

/-- The schema has an answer to a regular value. -/
theorem Value.Regular.not_unanswered (h : value.Regular) {lenient : Bool}
    {failure : ConfigFailure} : ¬ Schema.Unanswered lenient value failure := by
  have htoo : ∀ {retry : Entries} {key : String} {minimum : Binary64},
      value.field? "retry" = some (.map retry) → key ∈ ["initial_wait", "max_wait"] →
        ¬ Schema.TooLarge minimum (Entries.get? (.text key) retry) := by
    intro retry key minimum hretry hkey hlarge
    obtain ⟨n, hget, hnone⟩ := hlarge.exists_int
    exact h.waitsFit key hkey n ((Value.at?_of_field? hretry).trans hget) hnone
  intro hun
  cases hun with
  | sections entries strict keys => exact keys.not_textKeys h.textKeys
  | generator entries generator keyed generatorAt strict keys =>
    exact keys.not_textKeys (Value.Each.get? h.textKeys generatorAt)
  | retry entries generator retry keyed generatorAt inOrder retryAt strict keys =>
    exact keys.not_textKeys (Value.Each.get? h.textKeys retryAt)
  | wait entries generator retry keyed generatorAt inOrder retryAt waits =>
    rcases waits.wait with hlarge | ⟨initialWait, -, hlarge⟩
    · exact htoo retryAt (by simp) hlarge
    · exact htoo retryAt (by simp) hlarge

end

/-- **The schema accepts what is documented.** A regular value is accepted with these settings iff
it is a configuration as documented that has them, and if it has none it is refused with a
fault. -/
theorem accepted_iff_documented {value : Value} (h : value.Regular) :
    (∀ settings, Settings.ofValue false value = .ok settings ↔ Documented value settings) ∧
    ((∀ settings, ¬ Documented value settings) →
      ∃ fault, Settings.ofValue false value = .error (.fault fault)) := by
  have haccepts : ∀ settings,
      Settings.ofValue false value = .ok settings ↔ Documented value settings := by
    intro settings
    rw [Settings.ofValue_eq_ok_iff]
    constructor
    · rintro ⟨generator, retry, initialWait, maxWait, hd⟩
      exact documented_of_describes h hd
    · intro hd
      exact hd.exists_describes h
  refine ⟨haccepts, fun hnone => ?_⟩
  cases hchecked : Settings.ofValue false value with
  | ok settings => exact absurd ((haccepts settings).mp hchecked) (hnone settings)
  | error failure =>
    by_contra hfault
    refine h.not_unanswered (Schema.escapes_ofValue_iff.mp ⟨hchecked, ?_⟩)
    rintro fault rfl
    exact hfault ⟨fault, rfl⟩

theorem regular_configWithWaits {m n : Int} (hm : Binary64.ofInt? m ≠ none)
    (hn : Binary64.ofInt? n ≠ none) : (configWithWaits (.int m) (.int n)).Regular where
  textKeys := by simp [configWithWaits, Value.ofFields, Value.TextKeys, Value.Each, entriesEach]
  noNan := by simp [configWithWaits, Value.ofFields, Value.Each, entriesEach]
  waitsFit := by simp [configWithWaits, Value.ofFields, Value.at?, hm, hn]

/-- The last wait is compared with the double nearest to the first: after `2 ^ 53 + 1`, which no
double is, `2 ^ 53` is documented and `2 ^ 53 - 1` is not. -/
theorem documented_rounded_wait :
    (∃ settings, Documented (configWithWaits (.int (2 ^ 53 + 1)) (.int (2 ^ 53))) settings) ∧
    ∀ settings,
      ¬ Documented (configWithWaits (.int (2 ^ 53 + 1)) (.int (2 ^ 53 - 1))) settings := by
  have hfits : Binary64.ofInt? (2 ^ 53 + 1) ≠ none ∧ Binary64.ofInt? (2 ^ 53) ≠ none ∧
      Binary64.ofInt? (2 ^ 53 - 1) ≠ none := by
    decide +kernel
  constructor
  · refine ⟨⟨1000, "local", "seeded", some 42,
      ⟨3, .float (.ofRatio false (2 ^ 53) 1), .float (.ofRatio false (2 ^ 53) 1)⟩⟩, ?_⟩
    apply ((accepted_iff_documented (regular_configWithWaits hfits.1 hfits.2.1)).1 _).mp
    decide +kernel
  · intro settings hd
    have haccepted :=
      ((accepted_iff_documented (regular_configWithWaits hfits.1 hfits.2.2)).1 settings).mpr hd
    have hrefused : Settings.ofValue false
        (configWithWaits (.int (2 ^ 53 + 1)) (.int (2 ^ 53 - 1))) =
        .error (.fault (.belowNumber "retry.max_wait" (.ofRatio false (2 ^ 53) 1))) := by
      decide +kernel
    rw [hrefused] at haccepted
    cases haccepted

end Sequencer

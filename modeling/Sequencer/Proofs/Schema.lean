import Sequencer.Config.Loading
import Sequencer.Config.Schema
import Sequencer.Proofs.Stages

/-!
# What the schema accepts

`Describes` says, without reference to the order of the checks, which values are configurations
and what they set: which keys are there, and what is found under them. The schema accepts exactly
these values, with exactly these settings (`Settings.ofValue_eq_ok_iff`). There is one such
equivalence for each rule, and one for each section.
-/

namespace Sequencer

open Stage

/-- The value that a number is. -/
def Number.toValue : Number → Value
  | int n => .int n
  | float x => .float x

namespace Schema

/-! ## Keys -/

/-- The keys that must be there are there, and others than these and the optional ones are not,
unless they are allowed. -/
structure Keyed (required optional : List String) (lenient : Bool) (entries : Entries) :
    Prop where
  present : ∀ key ∈ required, Entries.hasKey (.text key) entries = true
  known : lenient = false → ∀ key ∈ entries.map Prod.fst, ∃ name ∈ required ++ optional,
    key = .text name

theorem isKnown_iff {known : List String} {key : Scalar} :
    isKnown known key = true ↔ ∃ name ∈ known, key = .text name := by
  unfold isKnown keyText?
  cases key <;> simp

theorem mapping_eq_ok_iff {context : String} {value : Value} {entries : Entries} :
    mapping context value = .ok entries ↔ value = .map entries := by
  unfold mapping refuse
  cases value <;> simp

theorem requireKeys_eq_ok_iff {context : String} {required : List String} {entries : Entries} :
    requireKeys context required entries = .ok () ↔
      ∀ key ∈ required, Entries.hasKey (.text key) entries = true := by
  unfold requireKeys refuse
  by_cases h : required.filter (fun key => ! Entries.hasKey (.text key) entries) = []
  · simp only [h, ↓reduceIte, true_iff]
    simpa [List.filter_eq_nil_iff] using h
  · simp only [h, ↓reduceIte, reduceCtorEq, false_iff]
    intro hall
    exact h (by simpa [List.filter_eq_nil_iff] using hall)

theorem forbidOthers_eq_ok_iff {context : String} {known : List String} {lenient : Bool}
    {entries : Entries} :
    forbidOthers context known lenient entries = .ok () ↔
      (lenient = false → ∀ key ∈ entries.map Prod.fst, ∃ name ∈ known, key = .text name) := by
  have hnone : (entries.map Prod.fst).filter (fun key => ! isKnown known key) = [] ↔
      ∀ key ∈ entries.map Prod.fst, ∃ name ∈ known, key = .text name := by
    rw [List.filter_eq_nil_iff]
    simp only [Bool.not_eq_true', Bool.not_eq_false, isKnown_iff]
  unfold forbidOthers refuse
  rw [← hnone]
  by_cases h : lenient = true ∨ (entries.map Prod.fst).filter (fun key => ! isKnown known key) = []
  · simp only [h, ↓reduceIte, true_iff]
    intro hstrict
    exact h.resolve_left (by rw [hstrict]; exact Bool.false_ne_true)
  · simp only [h, ↓reduceIte]
    obtain ⟨hstrict, hsome⟩ := not_or.mp h
    constructor
    · intro hok
      split at hok <;> cases hok
    · intro hall
      exact absurd (hall (by simpa using hstrict)) hsome

theorem keyed_eq_ok_iff {context : String} {required optional : List String} {lenient : Bool}
    {value : Value} {entries : Entries} :
    keyed context required optional lenient value = .ok entries ↔
      value = .map entries ∧ Keyed required optional lenient entries := by
  simp only [keyed, bind_eq_ok_iff, pure_eq_ok_iff, mapping_eq_ok_iff]
  constructor
  · rintro ⟨_, rfl, _, hpresent, _, hknown, rfl⟩
    exact ⟨rfl, requireKeys_eq_ok_iff.mp hpresent, forbidOthers_eq_ok_iff.mp hknown⟩
  · rintro ⟨rfl, hpresent, hknown⟩
    exact ⟨entries, rfl, (), requireKeys_eq_ok_iff.mpr hpresent, (),
      forbidOthers_eq_ok_iff.mpr hknown, rfl⟩

/-! ## Values -/

theorem integer_eq_ok_iff {context : String} {minimum n : Int} {value : Value} :
    integer context minimum value = .ok n ↔ value = .int n ∧ minimum ≤ n := by
  unfold integer refuse
  split
  · rename_i m
    split
    · simp; omega
    · simp; omega
  · rename_i hother
    simp only [reduceCtorEq, false_iff, not_and]
    intro h
    exact absurd h (hother n)

theorem name_eq_ok_iff {context : String} {names : List String} {value : Value} {s : String} :
    name context names value = .ok s ↔ value = .text s ∧ s ∈ names := by
  unfold name refuse
  split
  · rename_i t
    split
    · rename_i hmem
      simp only [Except.ok.injEq, Value.scalar.injEq, Scalar.text.injEq, iff_self_and]
      rintro rfl
      exact hmem
    · rename_i hmem
      simp only [reduceCtorEq, Value.scalar.injEq, Scalar.text.injEq, false_iff, not_and]
      rintro rfl
      exact hmem
  · rename_i hother
    simp only [reduceCtorEq, false_iff, not_and]
    intro h
    exact absurd h (hother s)

/-- The value gives a seed or none, for a source of this name. -/
def IsSeed (source : String) (value : Option Value) (seed : Option Int) : Prop :=
  match seed with
  | none => value = none ∨ value = some .null
  | some n => value = some (.int n) ∧ 0 ≤ n ∧ source = seededName

theorem seed_eq_ok_iff {source : String} {value : Option Value} {n : Option Int} :
    seed source value = .ok n ↔ IsSeed source value n := by
  unfold seed
  split
  · cases n <;> simp [IsSeed]
  · cases n <;> simp [IsSeed]
  · rename_i v hnotNull
    simp only [bind_eq_ok_iff, integer_eq_ok_iff]
    have hnull : v ≠ .null := fun h => hnotNull (by rw [h])
    by_cases hsource : source = seededName
    · cases n <;> simp [IsSeed, hsource, hnull, pure_eq_ok_iff]
    · constructor
      · rintro ⟨_, -, h⟩
        rw [if_pos hsource] at h
        cases h
      · intro h
        cases n with
        | none => exact (h.elim (nomatch ·) fun heq => hnull (Option.some.inj heq)).elim
        | some n => exact absurd h.2.2 hsource

theorem number?_eq_some_iff {value : Value} {n : Number} :
    number? value = some n ↔ value = n.toValue := by
  constructor
  · intro h
    unfold number? at h
    split at h <;> cases h <;> rfl
  · rintro rfl
    cases n <;> rfl

/-- The value gives a wait: it is a number that is not less than the minimum, and the wait is the
double nearest to it. -/
def IsWait (minimum : Binary64) (value : Option Value) (wait : Binary64) : Prop :=
  ∃ v n, value = some v ∧ number? v = some n ∧ n.less (.float minimum) = false ∧
    n.toBinary64? = some wait

theorem number_eq_ok_iff {context : String} {minimum wait : Binary64} {value : Value} :
    number context minimum value = .ok wait ↔ IsWait minimum (some value) wait := by
  unfold number refuse
  constructor
  · intro h
    split at h
    · cases h
    · rename_i n hn
      split at h
      · cases h
      · rename_i hless
        split at h
        · rename_i x hx
          cases h
          exact ⟨value, n, rfl, hn, by simpa using hless, hx⟩
        · cases h
  · rintro ⟨_, n, ⟨⟩, hn, hless, hx⟩
    simp [hn, hless, hx]

/-! ## Sections -/

theorem entry_eq_iff {key : String} {entries : Entries} {value : Value} (h : value ≠ .null) :
    entry key entries = value ↔ Entries.get? (.text key) entries = some value := by
  unfold entry
  cases Entries.get? (.text key) entries with
  | none => simpa using h.symm
  | some v => simp

section

variable {context key : String} {entries inner : Entries}

theorem entry_eq_map_iff :
    entry key entries = .map inner ↔ Entries.get? (.text key) entries = some (.map inner) :=
  entry_eq_iff (by simp)

theorem integer_entry_eq_ok_iff {minimum n : Int} :
    integer context minimum (entry key entries) = .ok n ↔
      Entries.get? (.text key) entries = some (.int n) ∧ minimum ≤ n := by
  rw [integer_eq_ok_iff, entry_eq_iff (by simp)]

theorem name_entry_eq_ok_iff {names : List String} {s : String} :
    name context names (entry key entries) = .ok s ↔
      Entries.get? (.text key) entries = some (.text s) ∧ s ∈ names := by
  rw [name_eq_ok_iff, entry_eq_iff (by simp)]

/-- What is not there counts as null, which is no wait either. -/
theorem number_entry_eq_ok_iff {minimum wait : Binary64} :
    number context minimum (entry key entries) = .ok wait ↔
      IsWait minimum (Entries.get? (.text key) entries) wait := by
  rw [number_eq_ok_iff]
  unfold entry
  cases Entries.get? (.text key) entries with
  | none => simp [IsWait, number?]
  | some v => rfl

end

/-- The entries of a section `generator` with these settings. -/
structure IsGenerator (lenient : Bool) (entries : Entries) (ceiling : Int)
    (clock randomSource : String) (seed : Option Int) : Prop where
  keyed : Keyed generatorKeys ["seed"] lenient entries
  ceilingAt : Entries.get? (.text "max_per_msec_size") entries = some (.int ceiling)
  ceiling_pos : 1 ≤ ceiling
  clockAt : Entries.get? (.text "clock") entries = some (.text clock)
  clock_mem : clock ∈ clockNames
  randomSourceAt : Entries.get? (.text "random_source") entries = some (.text randomSource)
  randomSource_mem : randomSource ∈ randomSourceNames
  seedAt : IsSeed randomSource (Entries.get? (.text "seed") entries) seed

theorem generator_eq_ok_iff {lenient : Bool} {value : Value} {ceiling : Int}
    {clock randomSource : String} {seed : Option Int} :
    generator lenient value = .ok (ceiling, clock, randomSource, seed) ↔
      ∃ entries, value = .map entries ∧
        IsGenerator lenient entries ceiling clock randomSource seed := by
  simp only [generator, bind_eq_ok_iff, pure_eq_ok_iff, keyed_eq_ok_iff,
    integer_entry_eq_ok_iff, name_entry_eq_ok_iff, seed_eq_ok_iff]
  constructor
  · rintro ⟨entries, ⟨rfl, hkeyed⟩, _, ⟨hceiling, hpos⟩, _, ⟨hclock, hmem⟩, _, ⟨hsource, hmem'⟩,
      _, hseed, heq⟩
    cases heq
    exact ⟨entries, rfl, hkeyed, hceiling, hpos, hclock, hmem, hsource, hmem', hseed⟩
  · rintro ⟨entries, rfl, h⟩
    exact ⟨entries, ⟨rfl, h.keyed⟩, ceiling, ⟨h.ceilingAt, h.ceiling_pos⟩, clock,
      ⟨h.clockAt, h.clock_mem⟩, randomSource, ⟨h.randomSourceAt, h.randomSource_mem⟩, seed,
      h.seedAt, rfl⟩

/-- The entries of a section `retry` with these settings. -/
structure IsRetry (lenient : Bool) (entries : Entries) (maxAttempts : Int)
    (initialWait maxWait : Binary64) : Prop where
  keyed : Keyed retryKeys [] lenient entries
  maxAttemptsAt : Entries.get? (.text "max_attempts") entries = some (.int maxAttempts)
  maxAttempts_pos : 1 ≤ maxAttempts
  initialWaitAt : IsWait .zero (Entries.get? (.text "initial_wait") entries) initialWait
  maxWaitAt : IsWait initialWait (Entries.get? (.text "max_wait") entries) maxWait

theorem retry_eq_ok_iff {lenient : Bool} {value : Value} {policy : RetryPolicy} :
    retry lenient value = .ok policy ↔
      ∃ entries initialWait maxWait, value = .map entries ∧
        policy = ⟨policy.maxAttempts, .float initialWait, .float maxWait⟩ ∧
        IsRetry lenient entries policy.maxAttempts initialWait maxWait := by
  simp only [retry, bind_eq_ok_iff, pure_eq_ok_iff, keyed_eq_ok_iff,
    integer_entry_eq_ok_iff, number_entry_eq_ok_iff]
  constructor
  · rintro ⟨entries, ⟨rfl, hkeyed⟩, attempts, ⟨hattempts, hpos⟩, initialWait, hinitial, maxWait,
      hmax, rfl⟩
    exact ⟨entries, initialWait, maxWait, rfl, rfl, hkeyed, hattempts, hpos, hinitial, hmax⟩
  · rintro ⟨entries, initialWait, maxWait, rfl, hpolicy, h⟩
    exact ⟨entries, ⟨rfl, h.keyed⟩, policy.maxAttempts, ⟨h.maxAttemptsAt, h.maxAttempts_pos⟩,
      initialWait, h.initialWaitAt, maxWait, h.maxWaitAt, hpolicy.symm⟩

/-! ## Failures -/

/-- The check names a fault if it does not accept. -/
def Faults {α : Type} (x : Checked α) : Prop :=
  ∀ failure, x = .error failure → ∃ fault, failure = .fault fault

theorem faults_ok {α : Type} (a : α) : Faults (.ok a : Checked α) := nofun

theorem faults_refuse {α : Type} (fault : ConfigFault) : Faults (refuse fault : Checked α) := by
  intro failure h
  cases h
  exact ⟨fault, rfl⟩

theorem Faults.bind {α β : Type} {x : Checked α} {f : α → Checked β} (hx : Faults x)
    (hf : ∀ a, x = .ok a → Faults (f a)) : Faults (x >>= f) := by
  intro failure h
  rcases bind_eq_error_iff.mp h with h | ⟨a, ha, h⟩
  · exact hx failure h
  · exact hf a ha failure h

theorem faults_integer (context : String) (minimum : Int) (value : Value) :
    Faults (integer context minimum value) := by
  unfold integer
  split
  · split
    · exact faults_refuse _
    · exact faults_ok _
  · exact faults_refuse _

theorem faults_name (context : String) (names : List String) (value : Value) :
    Faults (name context names value) := by
  unfold name
  split
  · split
    · exact faults_ok _
    · exact faults_refuse _
  · exact faults_refuse _

theorem faults_seed (source : String) (value : Option Value) : Faults (seed source value) := by
  unfold seed
  split
  · exact faults_ok _
  · exact faults_ok _
  · refine (faults_integer _ _ _).bind fun n _ => ?_
    split
    · exact faults_refuse _
    · exact faults_ok _

theorem faults_mapping (context : String) (value : Value) : Faults (mapping context value) := by
  unfold mapping
  split
  · exact faults_ok _
  · exact faults_refuse _

theorem faults_requireKeys (context : String) (required : List String) (entries : Entries) :
    Faults (requireKeys context required entries) := by
  unfold requireKeys
  dsimp only
  split
  · exact faults_ok _
  · exact faults_refuse _

theorem mapM_keyText?_eq_none_iff {keys : List Scalar} :
    keys.mapM keyText? = none ↔ ∃ key ∈ keys, ∀ name, key ≠ .text name := by
  induction keys with
  | nil => simp
  | cons key rest ih =>
    by_cases h : ∃ name, key = .text name
    · obtain ⟨name, rfl⟩ := h
      rw [List.mapM_cons]
      cases hrest : rest.mapM keyText? with
      | none => simpa [keyText?, hrest] using ih.mp hrest
      | some texts =>
        have := mt ih.mpr (by simp [hrest])
        simpa [keyText?, hrest] using this
    · have hnone : keyText? key = none := by
        unfold keyText?
        split
        · exact absurd ⟨_, rfl⟩ h
        · rfl
      simp only [List.mapM_cons, hnone, List.mem_cons, exists_eq_or_imp]
      exact iff_of_true rfl (.inl (not_exists.mp h))

/-- Checking the keys of a mapping can only fail to name a fault over a key that is no text. -/
theorem faults_keyed {context : String} {required optional : List String} {lenient : Bool}
    {value : Value} (h : ∀ entries, value = .map entries →
      ∀ key ∈ entries.map Prod.fst, ∃ name, key = .text name) :
    Faults (keyed context required optional lenient value) := by
  refine (faults_mapping _ _).bind fun entries hentries =>
    (faults_requireKeys _ _ _).bind fun _ _ => Faults.bind ?_ fun _ _ => faults_ok _
  unfold forbidOthers
  dsimp only
  split
  · exact faults_ok _
  · split
    · exact faults_refuse _
    · rename_i hnone
      obtain ⟨key, hkey, hname⟩ := mapM_keyText?_eq_none_iff.mp hnone
      obtain ⟨name, rfl⟩ :=
        h entries (mapping_eq_ok_iff.mp hentries) key (List.mem_filter.mp hkey).1
      exact absurd rfl (hname name)

theorem faults_generator {lenient : Bool} {value : Value} (h : ∀ entries, value = .map entries →
      ∀ key ∈ entries.map Prod.fst, ∃ name, key = .text name) :
    Faults (generator lenient value) :=
  (faults_keyed h).bind fun _ _ => (faults_integer _ _ _).bind fun _ _ =>
    (faults_name _ _ _).bind fun _ _ => (faults_name _ _ _).bind fun _ _ =>
      (faults_seed _ _).bind fun _ _ => faults_ok _

theorem faults_retry_of_not_map {lenient : Bool} {value : Value}
    (h : ∀ entries, value ≠ .map entries) : Faults (retry lenient value) := by
  have hmapping : Faults (keyed "retry" retryKeys [] lenient value) :=
    faults_keyed fun entries heq => absurd heq (h entries)
  refine hmapping.bind fun entries hkeyed => ?_
  exact absurd (keyed_eq_ok_iff.mp hkeyed).1 (h entries)

/-! ## The whole -/

/-- The value is a configuration with these settings: a mapping with the two sections, both of
them mappings with entries that give the settings. -/
structure Describes (lenient : Bool) (value : Value) (settings : Settings)
    (generator retry : Entries) (initialWait maxWait : Binary64) : Prop where
  sections : ∃ entries, value = .map entries ∧ Keyed sectionKeys [] lenient entries
  generatorAt : value.field? "generator" = some (.map generator)
  retryAt : value.field? "retry" = some (.map retry)
  waits : settings.retry = ⟨settings.retry.maxAttempts, .float initialWait, .float maxWait⟩
  inGenerator : IsGenerator lenient generator settings.ceiling settings.clock
    settings.randomSource settings.seed
  inRetry : IsRetry lenient retry settings.retry.maxAttempts initialWait maxWait

end Schema

/-- The schema accepts a value with these settings iff it is a configuration that gives them. -/
theorem Settings.ofValue_eq_ok_iff {lenient : Bool} {value : Value} {settings : Settings} :
    Settings.ofValue lenient value = .ok settings ↔
      ∃ generator retry initialWait maxWait,
        Schema.Describes lenient value settings generator retry initialWait maxWait := by
  simp only [Settings.ofValue, bind_eq_ok_iff, pure_eq_ok_iff, Schema.keyed_eq_ok_iff, Prod.exists,
    Schema.generator_eq_ok_iff, Schema.retry_eq_ok_iff, Schema.entry_eq_map_iff]
  constructor
  · rintro ⟨entries, ⟨rfl, hkeyed⟩, ceiling, clock, source, seed, ⟨g, hg, hin⟩, policy,
      ⟨r, initialWait, maxWait, hr, hpolicy, hin'⟩, rfl⟩
    exact ⟨g, r, initialWait, maxWait, ⟨entries, rfl, hkeyed⟩, hg, hr, hpolicy, hin, hin'⟩
  · rintro ⟨g, r, initialWait, maxWait, ⟨entries, rfl, hkeyed⟩, hg, hr, hpolicy, hin, hin'⟩
    exact ⟨entries, ⟨rfl, hkeyed⟩, _, _, _, _, ⟨g, hg, hin⟩, settings.retry,
      ⟨r, initialWait, maxWait, hr, hpolicy, hin'⟩, rfl⟩

end Sequencer

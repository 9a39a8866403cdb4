import Sequencer.Proofs.Ranges

/-!
# Values that the schema has no answer to

Checking a value comes to settings or names a fault, unless one of two things gets in its way: among
keys that are not allowed there is one that is no text, so that they cannot be listed, or a wait is
given as an integer that is too large for a double. `Unanswered` says of which values this is true,
in the order of the checks: what comes first must have been found in order.
-/

namespace Sequencer

open Stage

namespace Binary64

/-- The first natural number that is too large for a double: from here on the nearest one would
reach the end of the format. -/
def firstTooLarge : Nat := Nat.pow 2 1024 - Nat.pow 2 970

theorem unitsEnd_le_roundUnits : unitsEnd ≤ roundUnits (firstTooLarge * unitsInOne) 1 := by
  decide +kernel

theorem roundUnits_lt_unitsEnd : roundUnits ((firstTooLarge - 1) * unitsInOne) 1 < unitsEnd := by
  decide +kernel

theorem ofInt?_eq_none_iff {n : Int} : ofInt? n = none ↔ firstTooLarge ≤ n.natAbs := by
  have hrounded : ofInt? n = none ↔ unitsEnd ≤ roundUnits (n.natAbs * unitsInOne) 1 := by
    unfold ofInt? finite? ofRatio ofUnits
    rw [← Nat.not_lt]
    split
    · rename_i hlt
      simp [isFinite, hlt]
    · rename_i hlt
      simp [isFinite, hlt]
  rw [hrounded]
  constructor
  · intro h
    by_contra hlt
    have hle : n.natAbs * unitsInOne ≤ (firstTooLarge - 1) * unitsInOne :=
      Nat.mul_le_mul_right _ (by omega)
    have hmono := roundUnits_mono Nat.one_pos hle
    have := roundUnits_lt_unitsEnd
    omega
  · intro h
    exact Nat.le_trans unitsEnd_le_roundUnits
      (roundUnits_mono Nat.one_pos (Nat.mul_le_mul_right _ h))

end Binary64

namespace Schema

/-! ## Escapes -/

/-- The check fails, and names no fault. -/
def Escapes {α : Type} (x : Checked α) (failure : ConfigFailure) : Prop :=
  x = .error failure ∧ ∀ fault, failure ≠ .fault fault

section

variable {α β : Type} {failure : ConfigFailure}

theorem Faults.not_escapes {x : Checked α} (h : Faults x) : ¬ Escapes x failure := by
  rintro ⟨hx, hfailure⟩
  obtain ⟨fault, hfault⟩ := h failure hx
  exact hfailure fault hfault

theorem escapes_bind_iff {x : Checked α} {f : α → Checked β} :
    Escapes (x >>= f) failure ↔ Escapes x failure ∨ ∃ a, x = .ok a ∧ Escapes (f a) failure := by
  unfold Escapes
  rw [bind_eq_error_iff]
  constructor
  · rintro ⟨h | ⟨a, ha, h⟩, hfailure⟩
    · exact .inl ⟨h, hfailure⟩
    · exact .inr ⟨a, ha, h, hfailure⟩
  · rintro (⟨h, hfailure⟩ | ⟨a, ha, h, hfailure⟩)
    · exact ⟨.inl h, hfailure⟩
    · exact ⟨.inr ⟨a, ha, h⟩, hfailure⟩

/-- A stage that always answers lets pass what escapes after it. -/
theorem Faults.escapes_bind_iff {x : Checked α} (h : Faults x) {f : α → Checked β} :
    Escapes (x >>= f) failure ↔ ∃ a, x = .ok a ∧ Escapes (f a) failure := by
  rw [Schema.escapes_bind_iff, or_iff_right h.not_escapes]

theorem not_escapes_pure (a : α) : ¬ Escapes (pure a) failure := (faults_ok a).not_escapes

end

/-! ## Keys -/

/-- The keys that must be there are there, and a key that is no text is there too. -/
structure Unnamed (required : List String) (entries : Entries) : Prop where
  present : ∀ key ∈ required, Entries.hasKey (.text key) entries = true
  unnamed : ∃ key ∈ entries.map Prod.fst, ∀ name, key ≠ .text name

/-- Keys that are not allowed cannot be listed iff one of them is no text. -/
theorem escapes_forbidOthers_iff {context : String} {known : List String} {lenient : Bool}
    {entries : Entries} {failure : ConfigFailure} :
    Escapes (forbidOthers context known lenient entries) failure ↔
      failure = .unnamedKeys ∧ lenient = false ∧
        ∃ key ∈ entries.map Prod.fst, ∀ name, key ≠ .text name := by
  have hunknown : ((entries.map Prod.fst).filter fun key => ! isKnown known key).mapM keyText? =
      none ↔ ∃ key ∈ entries.map Prod.fst, ∀ name, key ≠ .text name := by
    rw [mapM_keyText?_eq_none_iff]
    constructor
    · rintro ⟨key, hkey, hname⟩
      exact ⟨key, (List.mem_filter.mp hkey).1, hname⟩
    · rintro ⟨key, hkey, hname⟩
      -- What is no text is not known either.
      refine ⟨key, List.mem_filter.mpr ⟨hkey, ?_⟩, hname⟩
      rw [Bool.not_eq_true', Bool.eq_false_iff, Ne, isKnown_iff]
      rintro ⟨name, -, rfl⟩
      exact hname name rfl
  rw [← hunknown]
  unfold forbidOthers
  dsimp only
  cases lenient with
  | true =>
    rw [if_pos (.inl rfl)]
    exact iff_of_false (faults_ok _).not_escapes (by simp)
  | false =>
    generalize (entries.map Prod.fst).filter (fun key => ! isKnown known key) = unknown
    by_cases hnil : unknown = []
    · rw [if_pos (.inr hnil), hnil]
      exact iff_of_false (faults_ok _).not_escapes (by simp)
    · rw [if_neg (by simp [hnil])]
      split
      · rename_i texts htexts
        exact iff_of_false (faults_refuse _).not_escapes (by simp [htexts])
      · rename_i hnone
        simp only [hnone, and_true]
        constructor
        · rintro ⟨h, -⟩
          cases h
          rfl
        · rintro rfl
          exact ⟨rfl, nofun⟩

theorem escapes_keyed_iff {context : String} {required optional : List String} {lenient : Bool}
    {value : Value} {failure : ConfigFailure} :
    Escapes (keyed context required optional lenient value) failure ↔
      failure = .unnamedKeys ∧ lenient = false ∧
        ∃ entries, value = .map entries ∧ Unnamed required entries := by
  simp only [keyed, (faults_mapping _ _).escapes_bind_iff, mapping_eq_ok_iff,
    (faults_requireKeys _ _ _).escapes_bind_iff, escapes_bind_iff, escapes_forbidOthers_iff,
    not_escapes_pure, and_false, exists_false, or_false]
  constructor
  · rintro ⟨entries, rfl, _, hpresent, rfl, rfl, hunnamed⟩
    exact ⟨rfl, rfl, entries, rfl, requireKeys_eq_ok_iff.mp hpresent, hunnamed⟩
  · rintro ⟨rfl, rfl, entries, rfl, hpresent, hunnamed⟩
    exact ⟨entries, rfl, (), requireKeys_eq_ok_iff.mpr hpresent, rfl, rfl, hunnamed⟩

/-! ## Values -/

/-- The value is an integer that is too large for a double, and is not less than the minimum. -/
def TooLarge (minimum : Binary64) (value : Option Value) : Prop :=
  ∃ n : Int, value = some (.int n) ∧ Binary64.firstTooLarge ≤ n.natAbs ∧
    Binary64.intLess n minimum = false

theorem toBinary64?_eq_none_iff {n : Number} :
    n.toBinary64? = none ↔ ∃ m, n = .int m ∧ Binary64.firstTooLarge ≤ m.natAbs := by
  cases n with
  | int n =>
    show Binary64.ofInt? n = none ↔ _
    simp [Binary64.ofInt?_eq_none_iff]
  | float x => simp [Number.toBinary64?]

theorem tooLarge_iff {minimum : Binary64} {value : Value} :
    TooLarge minimum (some value) ↔
      ∃ n, number? value = some n ∧ n.less (.float minimum) = false ∧ n.toBinary64? = none := by
  simp only [TooLarge, toBinary64?_eq_none_iff]
  constructor
  · rintro ⟨n, hvalue, hlarge, hless⟩
    exact ⟨.int n, number?_eq_some_iff.mpr (Option.some.inj hvalue), hless, n, rfl, hlarge⟩
  · rintro ⟨_, hvalue, hless, n, rfl, hlarge⟩
    exact ⟨n, congrArg some (number?_eq_some_iff.mp hvalue), hlarge, hless⟩

theorem escapes_number_iff {context : String} {minimum : Binary64} {value : Value}
    {failure : ConfigFailure} :
    Escapes (number context minimum value) failure ↔
      failure = .tooLarge ∧ TooLarge minimum (some value) := by
  rw [tooLarge_iff]
  unfold number
  cases number? value with
  | none => exact iff_of_false (faults_refuse _).not_escapes (by simp)
  | some n =>
    dsimp only
    by_cases hless : n.less (.float minimum) = true
    · rw [if_pos hless]
      exact iff_of_false (faults_refuse _).not_escapes (by simp [hless])
    · rw [if_neg hless]
      cases hdouble : n.toBinary64? with
      | some x => exact iff_of_false (faults_ok _).not_escapes (by simp [hdouble])
      | none =>
        constructor
        · rintro ⟨h, -⟩
          cases h
          exact ⟨rfl, n, rfl, Bool.eq_false_iff.mpr hless, hdouble⟩
        · rintro ⟨rfl, -⟩
          exact ⟨rfl, nofun⟩

/-- What is not there counts as null, which is not too large. -/
theorem escapes_number_entry_iff {context key : String} {minimum : Binary64} {entries : Entries}
    {failure : ConfigFailure} :
    Escapes (number context minimum (entry key entries)) failure ↔
      failure = .tooLarge ∧ TooLarge minimum (Entries.get? (.text key) entries) := by
  rw [escapes_number_iff]
  unfold entry
  cases Entries.get? (.text key) entries with
  | none => simp [TooLarge]
  | some v => rfl

/-! ## Sections -/

theorem escapes_generator_iff {lenient : Bool} {value : Value} {failure : ConfigFailure} :
    Escapes (generator lenient value) failure ↔
      failure = .unnamedKeys ∧ lenient = false ∧
        ∃ entries, value = .map entries ∧ Unnamed generatorKeys entries := by
  simp only [generator, escapes_bind_iff, escapes_keyed_iff, (faults_integer _ _ _).not_escapes,
    (faults_name _ _ _).not_escapes, (faults_seed _ _).not_escapes, not_escapes_pure, and_false,
    exists_false, or_false]

/-- The waits of a section `retry` that is in order until then: one of them is too large. -/
structure HasTooLargeWait (lenient : Bool) (entries : Entries) : Prop where
  keyed : Keyed retryKeys [] lenient entries
  maxAttempts : ∃ n, Entries.get? (.text "max_attempts") entries = some (.int n) ∧ 1 ≤ n
  wait : TooLarge .zero (Entries.get? (.text "initial_wait") entries) ∨
    ∃ initialWait, IsWait .zero (Entries.get? (.text "initial_wait") entries) initialWait ∧
      TooLarge initialWait (Entries.get? (.text "max_wait") entries)

theorem escapes_retry_iff {lenient : Bool} {value : Value} {failure : ConfigFailure} :
    Escapes (retry lenient value) failure ↔
      (failure = .unnamedKeys ∧ lenient = false ∧
        ∃ entries, value = .map entries ∧ Unnamed retryKeys entries) ∨
      failure = .tooLarge ∧ ∃ entries, value = .map entries ∧ HasTooLargeWait lenient entries := by
  simp only [retry, escapes_bind_iff, escapes_keyed_iff, keyed_eq_ok_iff,
    (faults_integer _ _ _).escapes_bind_iff, integer_entry_eq_ok_iff, escapes_number_entry_iff,
    number_entry_eq_ok_iff, not_escapes_pure, and_false, exists_false, or_false]
  refine or_congr_right ?_
  constructor
  · rintro ⟨entries, ⟨rfl, hkeyed⟩, n, hn, ⟨rfl, hlarge⟩ | ⟨initialWait, hinitial, rfl, hlarge⟩⟩
    · exact ⟨rfl, entries, rfl, hkeyed, ⟨n, hn⟩, .inl hlarge⟩
    · exact ⟨rfl, entries, rfl, hkeyed, ⟨n, hn⟩, .inr ⟨initialWait, hinitial, hlarge⟩⟩
  · rintro ⟨rfl, entries, rfl, hkeyed, ⟨n, hn⟩, hlarge | ⟨initialWait, hinitial, hlarge⟩⟩
    · exact ⟨entries, ⟨rfl, hkeyed⟩, n, hn, .inl ⟨rfl, hlarge⟩⟩
    · exact ⟨entries, ⟨rfl, hkeyed⟩, n, hn, .inr ⟨initialWait, hinitial, rfl, hlarge⟩⟩

/-! ## The whole -/

/-- Checking the value comes to no answer, and this is why. -/
inductive Unanswered (lenient : Bool) : Value → ConfigFailure → Prop
  /-- A key of the configuration is no text. -/
  | sections (entries : Entries) (strict : lenient = false) (keys : Unnamed sectionKeys entries) :
      Unanswered lenient (.map entries) .unnamedKeys
  /-- A key of the section `generator` is no text. -/
  | generator (entries generator : Entries) (keyed : Keyed sectionKeys [] lenient entries)
      (generatorAt : Entries.get? (.text "generator") entries = some (.map generator))
      (strict : lenient = false) (keys : Unnamed generatorKeys generator) :
      Unanswered lenient (.map entries) .unnamedKeys
  /-- The section `generator` is in order, and a key of the section `retry` is no text. -/
  | retry (entries generator retry : Entries) (keyed : Keyed sectionKeys [] lenient entries)
      (generatorAt : Entries.get? (.text "generator") entries = some (.map generator))
      (inOrder : ∃ ceiling clock source seed,
        IsGenerator lenient generator ceiling clock source seed)
      (retryAt : Entries.get? (.text "retry") entries = some (.map retry))
      (strict : lenient = false) (keys : Unnamed retryKeys retry) :
      Unanswered lenient (.map entries) .unnamedKeys
  /-- The section `generator` is in order, and a wait is too large. -/
  | wait (entries generator retry : Entries) (keyed : Keyed sectionKeys [] lenient entries)
      (generatorAt : Entries.get? (.text "generator") entries = some (.map generator))
      (inOrder : ∃ ceiling clock source seed,
        IsGenerator lenient generator ceiling clock source seed)
      (retryAt : Entries.get? (.text "retry") entries = some (.map retry))
      (waits : HasTooLargeWait lenient retry) :
      Unanswered lenient (.map entries) .tooLarge

theorem escapes_ofValue_iff {lenient : Bool} {value : Value} {failure : ConfigFailure} :
    Escapes (Settings.ofValue lenient value) failure ↔ Unanswered lenient value failure := by
  simp only [Settings.ofValue, escapes_bind_iff, escapes_keyed_iff, keyed_eq_ok_iff,
    escapes_generator_iff, Prod.exists, generator_eq_ok_iff, escapes_retry_iff, not_escapes_pure,
    and_false, exists_false, or_false, entry_eq_map_iff]
  constructor
  · rintro (⟨rfl, hstrict, entries, rfl, hkeys⟩ | ⟨entries, ⟨rfl, hkeyed⟩,
      ⟨rfl, hstrict, g, hg, hkeys⟩ | ⟨_, _, _, _, ⟨g, hg, horder⟩,
        ⟨rfl, hstrict, r, hr, hkeys⟩ | ⟨rfl, r, hr, hwaits⟩⟩⟩)
    · exact .sections entries hstrict hkeys
    · exact .generator entries g hkeyed hg hstrict hkeys
    · exact .retry entries g r hkeyed hg ⟨_, _, _, _, horder⟩ hr hstrict hkeys
    · exact .wait entries g r hkeyed hg ⟨_, _, _, _, horder⟩ hr hwaits
  · intro h
    cases h with
    | sections entries strict keys => exact .inl ⟨rfl, strict, entries, rfl, keys⟩
    | generator entries g keyed hg strict keys =>
      exact .inr ⟨entries, ⟨rfl, keyed⟩, .inl ⟨rfl, strict, g, hg, keys⟩⟩
    | retry entries g r keyed hg inOrder hr strict keys =>
      obtain ⟨_, _, _, _, horder⟩ := inOrder
      exact .inr ⟨entries, ⟨rfl, keyed⟩, .inr ⟨_, _, _, _, ⟨g, hg, horder⟩,
        .inl ⟨rfl, strict, r, hr, keys⟩⟩⟩
    | wait entries g r keyed hg inOrder hr waits =>
      obtain ⟨_, _, _, _, horder⟩ := inOrder
      exact .inr ⟨entries, ⟨rfl, keyed⟩, .inr ⟨_, _, _, _, ⟨g, hg, horder⟩,
        .inr ⟨rfl, r, hr, waits⟩⟩⟩

end Schema

/-- Checking a value, whether other keys are allowed or not, comes to settings or names a fault
unless the value is one of those that are `Unanswered`, and those fail for the reason given
there. -/
theorem answered_iff (lenient : Bool) (value : Value) :
    (((∃ settings, Settings.ofValue lenient value = .ok settings) ∨
        ∃ fault, Settings.ofValue lenient value = .error (.fault fault)) ↔
      ∀ failure, ¬ Schema.Unanswered lenient value failure) ∧
    ∀ failure, Schema.Unanswered lenient value failure →
      Settings.ofValue lenient value = .error failure := by
  simp only [← Schema.escapes_ofValue_iff]
  refine ⟨⟨?_, fun hanswered => ?_⟩, fun failure h => h.1⟩
  · rintro (⟨settings, hok⟩ | ⟨fault, herror⟩) failure ⟨h, hfailure⟩
    · rw [hok] at h
      cases h
    · rw [herror] at h
      cases h
      exact hfailure fault rfl
  · cases h : Settings.ofValue lenient value with
    | ok settings => exact .inl ⟨settings, rfl⟩
    | error failure =>
      by_contra hnone
      refine hanswered failure ⟨h, fun fault hfault => hnone (.inr ⟨fault, ?_⟩)⟩
      rw [hfault]

/-- A configuration with the number one as a key has no answer while such keys are not allowed, and
one with a wait of ten to the four hundredth has none even if they are. -/
theorem number_key_unanswered :
    Settings.ofValue false (.map [(.text "generator", .map []), (.text "retry", .map []),
      (.int 1, .null)]) = .error .unnamedKeys ∧
    Settings.ofValue true (configWithWaits (.int (Nat.pow 10 400)) (.int 0)) =
      .error .tooLarge := by
  decide +kernel

end Sequencer

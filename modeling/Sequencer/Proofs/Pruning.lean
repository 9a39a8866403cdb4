import Sequencer.Proofs.Combination
import Sequencer.Proofs.Unanswered

/-!
# Unknown keys allowed, or left out

`Value.pruned` leaves out of a configuration and of its two sections the keys that they do not
know. To allow unknown keys is to leave them out and to allow none (`lenient_eq_pruned`): a check
sees a mapping only through the keys that the mapping knows, so both ways stop at the same check.
-/

namespace Sequencer

open Stage

/-! ## Leaving keys out -/

/-- The entries whose keys are among these texts. -/
def Entries.restrict (names : List String) (entries : Entries) : Entries :=
  entries.filter fun e => names.any fun name => e.1 = .text name

/-- The value with no other keys than these, if it is a mapping. -/
def Value.restrict (names : List String) : Value → Value
  | .map entries => .map (Entries.restrict names entries)
  | other => other

/-- The keys that the section `generator` knows. -/
def knownInGenerator : List String := ["max_per_msec_size", "clock", "random_source", "seed"]

/-- The keys that the section `retry` knows. -/
def knownInRetry : List String := ["max_attempts", "initial_wait", "max_wait"]

/-- An entry of a configuration with no other keys than its section knows. None is left of an entry
that is no section. -/
def prunedEntry (e : Scalar × Value) : Option (Scalar × Value) :=
  if e.1 = .text "generator" then some (e.1, e.2.restrict knownInGenerator)
  else if e.1 = .text "retry" then some (e.1, e.2.restrict knownInRetry)
  else none

/-- A configuration with no unknown keys, neither in itself nor in its sections. -/
def Value.pruned : Value → Value
  | .map entries => .map (entries.filterMap prunedEntry)
  | other => other

namespace Entries

variable {names : List String} {name : String} {entries : Entries}

theorem get?_restrict (h : name ∈ names) :
    get? (.text name) (restrict names entries) = get? (.text name) entries :=
  get?_filter (fun key => names.any fun other => key = .text other) entries (by simpa using h)

theorem exists_of_mem_keys_restrict {key : Scalar}
    (h : key ∈ (restrict names entries).map Prod.fst) : ∃ name ∈ names, key = .text name := by
  obtain ⟨e, he, rfl⟩ := List.mem_map.mp h
  simpa using (List.mem_filter.mp he).2

/-- What is found under a key that is kept, where entries are kept or left out by their keys. -/
theorem get?_filterMap {keep : Scalar × Value → Option (Scalar × Value)} {key : Scalar}
    {change : Value → Value} (hkey : ∀ e e', keep e = some e' → e'.1 = e.1)
    (hkeep : ∀ value, keep (key, value) = some (key, change value)) (entries : Entries) :
    get? key (entries.filterMap keep) = (get? key entries).map change := by
  induction entries with
  | nil => rfl
  | cons e rest ih =>
    obtain ⟨k, v⟩ := e
    rw [get?_cons]
    by_cases hk : key = k
    · subst hk
      rw [List.filterMap_cons_some (hkeep v), get?_cons, if_pos rfl, if_pos rfl, Option.map_some]
    · rw [if_neg hk, ← ih]
      cases hv : keep (k, v) with
      | none => rw [List.filterMap_cons_none hv]
      | some e' =>
        obtain ⟨k', v'⟩ := e'
        obtain rfl : k' = k := hkey _ _ hv
        rw [List.filterMap_cons_some hv, get?_cons, if_neg hk]

end Entries

theorem key_of_prunedEntry {e e' : Scalar × Value} (h : prunedEntry e = some e') :
    e'.1 = e.1 ∧ ∃ name ∈ Schema.sectionKeys, e'.1 = .text name := by
  unfold prunedEntry at h
  split at h
  · rename_i hkey
    cases h
    exact ⟨rfl, "generator", by decide, hkey⟩
  · split at h
    · rename_i hkey
      cases h
      exact ⟨rfl, "retry", by decide, hkey⟩
    · cases h

namespace Schema

/-! ## Checks on what is left -/

theorem entry_restrict {names : List String} {key : String} {entries : Entries} (h : key ∈ names) :
    entry key (Entries.restrict names entries) = entry key entries := by
  unfold entry
  rw [Entries.get?_restrict h]

section

variable {α : Type} {context : String} {required optional : List String} {entries others : Entries}

theorem keyed_map (lenient : Bool) (entries : Entries) :
    keyed context required optional lenient (.map entries) = do
      requireKeys context required entries
      forbidOthers context (required ++ optional) lenient entries
      return entries :=
  rfl

/-- Where only known keys are left, and all of those that must be there, a check goes on as if the
others were allowed. -/
theorem keyed_bind_known {f g : Entries → Checked α}
    (hpresent : ∀ key ∈ required,
      Entries.get? (.text key) entries = none ↔ Entries.get? (.text key) others = none)
    (hknown : ∀ key ∈ others.map Prod.fst, ∃ name ∈ required ++ optional, key = .text name)
    (hrest : f others = g entries) :
    (keyed context required optional false (.map others) >>= f) =
      keyed context required optional true (.map entries) >>= g := by
  have hrequire : requireKeys context required others = requireKeys context required entries := by
    have hsame : ∀ key ∈ required, Entries.hasKey (.text key) others =
        Entries.hasKey (.text key) entries := by
      intro key hkey
      unfold Entries.hasKey
      rw [Bool.eq_iff_iff, Option.isSome_iff_ne_none, Option.isSome_iff_ne_none, Ne, Ne,
        hpresent key hkey]
    unfold requireKeys
    rw [List.filter_congr fun key hkey => by rw [hsame key hkey]]
  have hstrict : forbidOthers context (required ++ optional) false others = .ok () :=
    forbidOthers_eq_ok_iff.mpr fun _ => hknown
  have hlenient : forbidOthers context (required ++ optional) true entries = .ok () :=
    forbidOthers_eq_ok_iff.mpr nofun
  rw [keyed_map, keyed_map, hrequire, hstrict, hlenient]
  cases requireKeys context required entries with
  | error failure => rfl
  | ok => exact hrest

/-- A section is checked with unknown keys left out as it is with unknown keys allowed, if nothing
is asked of it but what is under the keys it knows. -/
theorem keyed_bind_restrict {f : Entries → Checked α} {names : List String}
    (hnames : required ++ optional = names)
    (hf : ∀ entries : Entries, f (Entries.restrict names entries) = f entries) (value : Value) :
    (keyed context required optional false (value.restrict names) >>= f) =
      keyed context required optional true value >>= f := by
  cases value with
  | scalar s => rfl
  | list items => rfl
  | set members => rfl
  | map entries =>
    refine keyed_bind_known (fun key hkey => ?_) (fun key hkey => ?_) (hf entries)
    · have hmem : key ∈ names := hnames ▸ List.mem_append_left _ hkey
      rw [Entries.get?_restrict hmem]
    · rw [hnames]
      exact Entries.exists_of_mem_keys_restrict hkey

end

theorem generator_restrict (value : Value) :
    generator false (value.restrict knownInGenerator) = generator true value := by
  refine keyed_bind_restrict rfl (fun entries => ?_) value
  rw [entry_restrict (by decide), entry_restrict (by decide), entry_restrict (by decide),
    Entries.get?_restrict (by decide)]

theorem retry_restrict (value : Value) :
    retry false (value.restrict knownInRetry) = retry true value := by
  refine keyed_bind_restrict rfl (fun entries => ?_) value
  rw [entry_restrict (by decide), entry_restrict (by decide), entry_restrict (by decide)]

section

variable {key : String} {names : List String}

/-- What is found of a section is the section without its unknown keys. -/
theorem get?_pruned
    (h : ∀ value, prunedEntry (.text key, value) = some (.text key, value.restrict names))
    (entries : Entries) : Entries.get? (.text key) (entries.filterMap prunedEntry) =
      (Entries.get? (.text key) entries).map (Value.restrict names) :=
  Entries.get?_filterMap (fun _ _ h => (key_of_prunedEntry h).1) h entries

theorem entry_pruned
    (h : ∀ value, prunedEntry (.text key, value) = some (.text key, value.restrict names))
    (entries : Entries) :
    entry key (entries.filterMap prunedEntry) = (entry key entries).restrict names := by
  unfold entry
  rw [get?_pruned h]
  -- What is not there counts as null, of which there is nothing to leave out.
  cases Entries.get? (.text key) entries <;> rfl

end

end Schema

/-! ## The whole -/

theorem Settings.ofValue_pruned (value : Value) :
    Settings.ofValue false value.pruned = Settings.ofValue true value := by
  cases value with
  | scalar s => rfl
  | list items => rfl
  | set members => rfl
  | map entries =>
    have hgenerator (value : Value) : prunedEntry (.text "generator", value) =
        some (.text "generator", value.restrict knownInGenerator) := rfl
    have hretry (value : Value) : prunedEntry (.text "retry", value) =
        some (.text "retry", value.restrict knownInRetry) := rfl
    refine Schema.keyed_bind_known (fun key hkey => ?_) (fun key hkey => ?_) ?_
    · simp only [Schema.sectionKeys, List.mem_cons, List.not_mem_nil, or_false] at hkey
      rcases hkey with rfl | rfl
      · rw [Schema.get?_pruned hgenerator, Option.map_eq_none_iff]
      · rw [Schema.get?_pruned hretry, Option.map_eq_none_iff]
    · rw [List.append_nil]
      obtain ⟨e, he, rfl⟩ := List.mem_map.mp hkey
      obtain ⟨e', -, hpruned⟩ := List.mem_filterMap.mp he
      exact (key_of_prunedEntry hpruned).2
    · rw [Schema.entry_pruned hgenerator, Schema.entry_pruned hretry, Schema.generator_restrict,
        Schema.retry_restrict]

theorem Schema.Keyed.lenient {required optional : List String} {entries : Entries}
    (h : Keyed required optional false entries) : Keyed required optional true entries :=
  ⟨h.present, nofun⟩

theorem Settings.ofValue_lenient {value : Value} {settings : Settings}
    (h : Settings.ofValue false value = .ok settings) :
    Settings.ofValue true value = .ok settings := by
  obtain ⟨g, r, initialWait, maxWait, hdescribes⟩ := Settings.ofValue_eq_ok_iff.mp h
  obtain ⟨entries, hvalue, hkeyed⟩ := hdescribes.sections
  exact Settings.ofValue_eq_ok_iff.mpr ⟨g, r, initialWait, maxWait, { hdescribes with
    sections := ⟨entries, hvalue, hkeyed.lenient⟩
    inGenerator := { hdescribes.inGenerator with keyed := hdescribes.inGenerator.keyed.lenient }
    inRetry := { hdescribes.inRetry with keyed := hdescribes.inRetry.keyed.lenient } }⟩

/-- Keys without a name are no reason to fail where unknown keys are allowed, and every other
reason has a text. -/
theorem Settings.exists_message_of_lenient {value : Value} {failure : ConfigFailure}
    (h : Settings.ofValue true value = .error failure) :
    ∃ message, failure.message? = some message := by
  cases failure with
  | fault fault => exact ⟨_, rfl⟩
  | tooLarge => exact ⟨_, rfl⟩
  | unnamedKeys =>
    cases Schema.escapes_ofValue_iff.mp ⟨h, nofun⟩ with
    | sections entries strict keys => cases strict
    | generator entries generator keyed generatorAt strict keys => cases strict
    | retry entries generator retry keyed generatorAt inOrder retryAt strict keys => cases strict

/-- **Unknown keys.** To check a value with unknown keys allowed comes to what it comes to with the
unknown keys left out and none allowed: to the same settings, or to a failure for the same reason,
and that has a text. What is accepted with none allowed is accepted with the same settings if they
are. Values that differ in unknown keys only are accepted with the same settings or refused for the
same reason. -/
theorem lenient_eq_pruned (value : Value) :
    Settings.ofValue true value = Settings.ofValue false value.pruned ∧
    (∀ failure, Settings.ofValue true value = .error failure →
      ∃ message, failure.message? = some message) ∧
    (∀ settings, Settings.ofValue false value = .ok settings →
      Settings.ofValue true value = .ok settings) ∧
    ∀ other : Value, other.pruned = value.pruned →
      Settings.ofValue true other = Settings.ofValue true value := by
  refine ⟨(Settings.ofValue_pruned value).symm,
    fun failure h => Settings.exists_message_of_lenient h,
    fun settings h => Settings.ofValue_lenient h, fun other h => ?_⟩
  rw [← Settings.ofValue_pruned other, h, Settings.ofValue_pruned value]

/-- Unknown keys in both sections and beside them, two of which are no texts: if they are allowed,
the settings are those of the configuration without them. -/
theorem lenient_eq_pruned_numberKeys :
    let plain : Value := configWithWaits (.int 0) (.int 1)
    let value : Value := .map [(.int 1, .null),
      (.text "generator", .map [(.text "max_per_msec_size", .int 1000),
        (.text "clock", .text "local"), (.text "colour", .text "red"),
        (.text "random_source", .text "seeded"), (.text "seed", .int 42)]),
      (.text "colour", .text "red"),
      (.text "retry", .map [(.text "max_attempts", .int 3), (.bool true, .list []),
        (.text "initial_wait", .int 0), (.text "max_wait", .int 1)])]
    Settings.ofValue false value = .error .unnamedKeys ∧
    ∃ settings, Settings.ofValue false plain = .ok settings ∧ settings.seed = some 42 ∧
      Settings.ofValue true plain = .ok settings ∧ Settings.ofValue true value = .ok settings := by
  intro plain value
  have hpruned : value.pruned = plain.pruned := rfl
  have haccepted : Settings.ofValue false plain =
      .ok ⟨1000, "local", "seeded", some 42, 3, .float .zero, .float (.ofRatio false 1 1)⟩ := by
    decide +kernel
  obtain ⟨-, -, hlenient, hother⟩ := lenient_eq_pruned plain
  exact ⟨by decide +kernel, _, haccepted, rfl, hlenient _ haccepted,
    (hother value hpruned).trans (hlenient _ haccepted)⟩

end Sequencer

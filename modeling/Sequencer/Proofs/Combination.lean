import Sequencer.Proofs.Merging
import Sequencer.Proofs.Schema

/-!
# Base and overlay combined

In `combination` each field of each section is the overlay's if the overlay has it and the base's
otherwise. A merge goes deeper where both are mappings. The schema does not see the difference
(`ofValue_merge_eq_ok_iff`), because in a base that it accepts none of the fields it knows is a
mapping, and of the other fields it only sees the keys.
-/

namespace Sequencer

/-! ## What the schema sees of entries -/

namespace Schema

/-- The entries have the same keys, and under these names the same values. -/
structure Agree (names : List String) (entries others : Entries) : Prop where
  keys : ∀ key, key ∈ entries.map Prod.fst ↔ key ∈ others.map Prod.fst
  values : ∀ name ∈ names, Entries.get? (.text name) entries = Entries.get? (.text name) others

theorem Agree.symm {names : List String} {entries others : Entries}
    (h : Agree names entries others) : Agree names others entries :=
  ⟨fun key => (h.keys key).symm, fun name hname => (h.values name hname).symm⟩

variable {names : List String} {lenient : Bool} {entries others : Entries}

theorem Keyed.congr {required optional : List String} (hagree : Agree names entries others)
    (h : Keyed required optional lenient entries) : Keyed required optional lenient others where
  present key hkey := by
    rw [Entries.hasKey_iff, ← hagree.keys, ← Entries.hasKey_iff]
    exact h.present key hkey
  known hstrict key hkey := h.known hstrict key ((hagree.keys key).mpr hkey)

theorem IsGenerator.congr {ceiling : Int} {clock source : String} {seed : Option Int}
    (hagree : Agree (generatorKeys ++ ["seed"]) entries others)
    (h : IsGenerator lenient entries ceiling clock source seed) :
    IsGenerator lenient others ceiling clock source seed where
  keyed := h.keyed.congr hagree
  ceilingAt := (hagree.values _ (by decide)).symm.trans h.ceilingAt
  ceiling_pos := h.ceiling_pos
  clockAt := (hagree.values _ (by decide)).symm.trans h.clockAt
  clock_mem := h.clock_mem
  randomSourceAt := (hagree.values _ (by decide)).symm.trans h.randomSourceAt
  randomSource_mem := h.randomSource_mem
  seedAt := by
    rw [← hagree.values "seed" (by decide)]
    exact h.seedAt

theorem IsRetry.congr {maxAttempts : Int} {initialWait maxWait : Binary64}
    (hagree : Agree retryKeys entries others)
    (h : IsRetry lenient entries maxAttempts initialWait maxWait) :
    IsRetry lenient others maxAttempts initialWait maxWait where
  keyed := h.keyed.congr hagree
  maxAttemptsAt := (hagree.values _ (by decide)).symm.trans h.maxAttemptsAt
  maxAttempts_pos := h.maxAttempts_pos
  initialWaitAt := by
    rw [← hagree.values "initial_wait" (by decide)]
    exact h.initialWaitAt
  maxWaitAt := by
    rw [← hagree.values "max_wait" (by decide)]
    exact h.maxWaitAt

/-- Two mappings with the same keys, in both of which the two sections are mappings that agree, are
configurations with the same settings. -/
theorem accepts_congr {generator retry generator' retry' : Entries} {settings : Settings}
    (hagree : Agree [] entries others)
    (hgenerator : Entries.get? (.text "generator") entries = some (.map generator))
    (hgenerator' : Entries.get? (.text "generator") others = some (.map generator'))
    (hretry : Entries.get? (.text "retry") entries = some (.map retry))
    (hretry' : Entries.get? (.text "retry") others = some (.map retry'))
    (hinGenerator : Agree (generatorKeys ++ ["seed"]) generator generator')
    (hinRetry : Agree retryKeys retry retry')
    (h : Settings.ofValue lenient (.map entries) = .ok settings) :
    Settings.ofValue lenient (.map others) = .ok settings := by
  obtain ⟨g, r, initialWait, maxWait, hdescribes⟩ := Settings.ofValue_eq_ok_iff.mp h
  obtain rfl : generator = g := by
    have := hgenerator.symm.trans hdescribes.generatorAt
    simpa using this
  obtain rfl : retry = r := by
    have := hretry.symm.trans hdescribes.retryAt
    simpa using this
  obtain ⟨_, ⟨⟩, hkeyed⟩ := hdescribes.sections
  refine Settings.ofValue_eq_ok_iff.mpr ⟨generator', retry', initialWait, maxWait, ?_⟩
  exact {
    sections := ⟨others, rfl, hkeyed.congr hagree⟩
    generatorAt := hgenerator'
    retryAt := hretry'
    waits := hdescribes.waits
    inGenerator := hdescribes.inGenerator.congr hinGenerator
    inRetry := hdescribes.inRetry.congr hinRetry }

/-! ## Fields that are no mappings -/

/-- None of these fields is a mapping. -/
def Plain (names : List String) (entries : Entries) : Prop :=
  ∀ name ∈ names, ∀ inner, Entries.get? (.text name) entries ≠ some (.map inner)

theorem IsSeed.plain {source : String} {value : Option Value} {seed : Option Int}
    (h : IsSeed source value seed) (inner : Entries) : value ≠ some (.map inner) := by
  rintro rfl
  cases seed with
  | none => rcases h with h | h <;> cases h
  | some n => cases h.1

theorem IsWait.plain {minimum wait : Binary64} {value : Option Value}
    (h : IsWait minimum value wait) (inner : Entries) : value ≠ some (.map inner) := by
  obtain ⟨v, n, rfl, hn, -⟩ := h
  intro heq
  cases heq
  cases hn

theorem IsGenerator.plain {ceiling : Int} {clock source : String} {seed : Option Int}
    (h : IsGenerator lenient entries ceiling clock source seed) :
    Plain (generatorKeys ++ ["seed"]) entries := by
  intro name hname inner
  simp only [generatorKeys, List.cons_append, List.nil_append, List.mem_cons, List.not_mem_nil,
    or_false] at hname
  rcases hname with rfl | rfl | rfl | rfl
  · rw [h.ceilingAt]
    simp
  · rw [h.clockAt]
    simp
  · rw [h.randomSourceAt]
    simp
  · exact h.seedAt.plain inner

theorem IsRetry.plain {maxAttempts : Int} {initialWait maxWait : Binary64}
    (h : IsRetry lenient entries maxAttempts initialWait maxWait) :
    Plain retryKeys entries := by
  intro name hname inner
  simp only [retryKeys, List.mem_cons, List.not_mem_nil, or_false] at hname
  rcases hname with rfl | rfl | rfl
  · rw [h.maxAttemptsAt]
    simp
  · exact h.initialWaitAt.plain inner
  · exact h.maxWaitAt.plain inner

end Schema

/-! ## Entries over entries -/

/-- The entries of an overlay, and those of a base under all other keys. -/
def Entries.laidOver (changes entries : Entries) : Entries :=
  changes ++ entries.filter fun e => ! hasKey e.1 changes

theorem Entries.get?_append (key : Scalar) (entries others : Entries) :
    get? key (entries ++ others) = (get? key entries).or (get? key others) :=
  List.lookup_append

theorem Entries.get?_filter {key : Scalar} (kept : Scalar → Bool) (entries : Entries)
    (h : kept key = true) : get? key (entries.filter fun e => kept e.1) = get? key entries := by
  induction entries with
  | nil => rfl
  | cons e rest ih =>
    obtain ⟨k, v⟩ := e
    by_cases hk : key = k
    · subst hk
      simp [h]
    · rw [List.filter_cons]
      split
      · rw [get?_cons, get?_cons, if_neg hk, if_neg hk, ih]
      · rw [get?_cons, if_neg hk, ih]

theorem Entries.get?_laidOver (key : Scalar) (changes entries : Entries) :
    get? key (laidOver changes entries) = (get? key changes).or (get? key entries) := by
  unfold laidOver
  rw [get?_append]
  cases hkey : get? key changes with
  | some value => rfl
  | none => exact get?_filter (fun k => ! hasKey k changes) entries (by simp [hasKey, hkey])

theorem Entries.mem_keys_laidOver {key : Scalar} {changes entries : Entries} :
    key ∈ (laidOver changes entries).map Prod.fst ↔
      key ∈ changes.map Prod.fst ∨ key ∈ entries.map Prod.fst := by
  rw [← not_iff_not, not_or, ← get?_eq_none_iff, ← get?_eq_none_iff, ← get?_eq_none_iff,
    get?_laidOver, Option.or_eq_none_iff]

/-- Merged entries and entries over entries agree on the fields that are no mappings in the
base. -/
theorem agree_mergeEntries {names : List String} {entries changes : Entries}
    (hdistinct : (changes.map Prod.fst).Nodup) (hplain : Schema.Plain names entries) :
    Schema.Agree names (mergeEntries entries changes) (Entries.laidOver changes entries) where
  keys key := mem_keys_mergeEntries.trans Entries.mem_keys_laidOver.symm
  values name hname := by
    rw [get?_mergeEntries hdistinct, Entries.get?_laidOver]
    cases Entries.get? (.text name) changes with
    | none => rfl
    | some value =>
      show some (changed entries (.text name) value) = some value
      unfold changed
      cases hold : Entries.get? (.text name) entries with
      | none => rfl
      | some old =>
        have hmap : ∀ inner, old ≠ .map inner := fun inner heq =>
          hplain name hname inner (hold.trans (congrArg some heq))
        exact congrArg some (Value.merge_of_base_not_map hmap value)

/-! ## The combination -/

/-- The entries of a section, none if it is not there or no mapping. -/
def sectionOf (name : String) (entries : Entries) : Entries :=
  match Entries.get? (.text name) entries with
  | some (.map inner) => inner
  | _ => []

/-- An overlay and a base combined: each key of the two sections is taken from the overlay if it
is there, else from the base, and so is every further key. -/
def combination (base overlay : Entries) : Entries :=
  Entries.laidOver
    (Schema.sectionKeys.map fun name =>
      (.text name, .map (Entries.laidOver (sectionOf name overlay) (sectionOf name base))))
    (Entries.laidOver overlay base)

/-- The section is a mapping or not there. -/
def MappingOrAbsent (name : String) (entries : Entries) : Prop :=
  ∀ value, Entries.get? (.text name) entries = some value → ∃ inner, value = .map inner

instance (name : String) (entries : Entries) : Decidable (MappingOrAbsent name entries) :=
  match h : Entries.get? (.text name) entries with
  | none => isTrue fun _ hvalue => nomatch h.symm.trans hvalue
  | some (.map inner) => isTrue fun _ hvalue =>
    ⟨inner, (Option.some.inj (h.symm.trans hvalue)).symm⟩
  | some (.scalar _) => isFalse fun hsection => (hsection _ h).elim nofun
  | some (.list _) => isFalse fun hsection => (hsection _ h).elim nofun
  | some (.set _) => isFalse fun hsection => (hsection _ h).elim nofun

theorem get?_combination {base overlay : Entries} {name : String}
    (hname : name ∈ Schema.sectionKeys) :
    Entries.get? (.text name) (combination base overlay) =
      some (.map (Entries.laidOver (sectionOf name overlay) (sectionOf name base))) := by
  unfold combination
  rw [Entries.get?_laidOver]
  simp only [Schema.sectionKeys, List.mem_cons, List.not_mem_nil, or_false] at hname
  rcases hname with rfl | rfl
  · rfl
  · rfl

theorem mem_keys_combination {base overlay : Entries} {key : Scalar}
    (hbase : ∀ name ∈ Schema.sectionKeys, .text name ∈ base.map Prod.fst) :
    key ∈ (combination base overlay).map Prod.fst ↔
      key ∈ overlay.map Prod.fst ∨ key ∈ base.map Prod.fst := by
  unfold combination
  rw [Entries.mem_keys_laidOver, Entries.mem_keys_laidOver, or_iff_right_of_imp]
  intro h
  simp only [List.map_map, List.mem_map, Function.comp_apply] at h
  obtain ⟨name, hname, rfl⟩ := h
  exact .inr (hbase name hname)

/-- A section of merged entries is the section of the overlay merged into that of the base. -/
theorem get?_mergeEntries_section {base overlay inner : Entries} {name : String}
    (hdistinct : (overlay.map Prod.fst).Nodup) (hsection : MappingOrAbsent name overlay)
    (hbase : Entries.get? (.text name) base = some (.map inner)) :
    Entries.get? (.text name) (mergeEntries base overlay) =
      some (.map (mergeEntries inner (sectionOf name overlay))) := by
  rw [get?_mergeEntries hdistinct]
  unfold sectionOf
  cases hoverlay : Entries.get? (.text name) overlay with
  | none => simpa [mergeEntries] using hbase
  | some value =>
    obtain ⟨changes, rfl⟩ := hsection value hoverlay
    simp only [changed, hbase, Value.merge_maps]

theorem nodup_keys_sectionOf (name : String) {entries : Entries}
    (h : (Value.map entries).Proper) : ((sectionOf name entries).map Prod.fst).Nodup := by
  unfold sectionOf
  split
  · rename_i inner hget
    have hinner : (Value.map inner).Proper := Value.Each.get? h hget
    exact hinner.1
  · exact List.nodup_nil

theorem sectionOf_of_get? {name : String} {entries inner : Entries}
    (h : Entries.get? (.text name) entries = some (.map inner)) :
    sectionOf name entries = inner := by
  unfold sectionOf
  rw [h]

/-- The schema makes the same of the merge and of the combination. -/
theorem ofValue_merge_eq_ok_iff {lenient : Bool} {base overlay : Entries}
    {settings result : Settings} (haccepted : Settings.ofValue lenient (.map base) = .ok settings)
    (hproper : (Value.map overlay).Proper)
    (hsections : ∀ name ∈ Schema.sectionKeys, MappingOrAbsent name overlay) :
    Settings.ofValue lenient ((Value.map base).merge (.map overlay)) = .ok result ↔
      Settings.ofValue lenient (.map (combination base overlay)) = .ok result := by
  obtain ⟨generator, retry, _, _, h⟩ := Settings.ofValue_eq_ok_iff.mp haccepted
  obtain ⟨_, ⟨⟩, hkeyed⟩ := h.sections
  have hdistinct : (overlay.map Prod.fst).Nodup := hproper.1
  have hgenerator := get?_mergeEntries_section hdistinct (hsections "generator" (by decide))
    h.generatorAt
  have hretry := get?_mergeEntries_section hdistinct (hsections "retry" (by decide)) h.retryAt
  have hgenerator' : Entries.get? (.text "generator") (combination base overlay) = _ :=
    get?_combination (by decide)
  have hretry' : Entries.get? (.text "retry") (combination base overlay) = _ :=
    get?_combination (by decide)
  rw [sectionOf_of_get? h.generatorAt] at hgenerator'
  rw [sectionOf_of_get? h.retryAt] at hretry'
  have hagree : Schema.Agree [] (mergeEntries base overlay) (combination base overlay) := by
    refine ⟨fun key => ?_, fun name hname => absurd hname List.not_mem_nil⟩
    rw [mem_keys_mergeEntries, mem_keys_combination]
    exact fun name hname => Entries.hasKey_iff.mp (hkeyed.present name hname)
  have hinGenerator := agree_mergeEntries (nodup_keys_sectionOf "generator" hproper)
    h.inGenerator.plain
  have hinRetry := agree_mergeEntries (nodup_keys_sectionOf "retry" hproper) h.inRetry.plain
  rw [Value.merge_maps]
  constructor
  · exact Schema.accepts_congr hagree hgenerator hgenerator' hretry hretry' hinGenerator hinRetry
  · exact Schema.accepts_congr hagree.symm hgenerator' hgenerator hretry' hretry
      hinGenerator.symm hinRetry.symm

theorem get?_sectionOf (name key : String) (entries : Entries) :
    Entries.get? (.text key) (sectionOf name entries) =
      (Value.map entries).at? [.text name, .text key] := by
  unfold sectionOf
  split
  · rename_i inner hget
    have hfield : (Value.map entries).field? name = some (.map inner) := hget
    exact (Value.at?_of_field? hfield).symm
  · rename_i hother
    simp only [Value.at?, Entries.get?_nil]
    cases hget : Entries.get? (.text name) entries with
    | none => rfl
    | some value =>
      cases value with
      | map inner => exact absurd hget (hother inner)
      | scalar s => rfl
      | list items => rfl
      | set members => rfl

/-- Each field of the combination is that of the overlay if it is there, else that of the base. -/
theorem at?_combination {base overlay : Entries} {name : String} (hname : name ∈ Schema.sectionKeys)
    (key : String) :
    (Value.map (combination base overlay)).at? [.text name, .text key] =
      ((Value.map overlay).at? [.text name, .text key]).or
        ((Value.map base).at? [.text name, .text key]) := by
  have hfield : (Value.map (combination base overlay)).field? name = some (.map _) :=
    get?_combination hname
  rw [Value.at?_of_field? hfield, Entries.get?_laidOver, get?_sectionOf, get?_sectionOf]

end Sequencer

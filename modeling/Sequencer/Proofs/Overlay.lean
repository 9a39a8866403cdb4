import Sequencer.Config.Loading
import Sequencer.Proofs.Combination
import Sequencer.Proofs.Descent

/-!
# Loading with an overlay

An overlay takes effect field by field: loading with it gives exactly what the schema makes of base
and overlay combined, and an overlay that has no sections to be combined is found wanting. What
cannot be merged, because base and overlay lie within themselves under the same keys, is a failure
of its own.
-/

namespace Sequencer

open Stage

/-! ## Settings and the fields they come from -/

/-- The settings are those that are found in the fields of a section. -/
structure Settings.TakenFrom (settings : Settings) (field : String → String → Option Value) :
    Prop where
  ceiling : field "generator" "max_per_msec_size" = some (.int settings.ceiling)
  clock : field "generator" "clock" = some (.text settings.clock)
  randomSource : field "generator" "random_source" = some (.text settings.randomSource)
  seed : Schema.IsSeed settings.randomSource (field "generator" "seed") settings.seed
  maxAttempts : field "retry" "max_attempts" = some (.int settings.retry.maxAttempts)
  waits : ∃ initialWait maxWait, settings.retry.initialWait = .float initialWait ∧
    settings.retry.maxWait = .float maxWait ∧
    Schema.IsWait .zero (field "retry" "initial_wait") initialWait ∧
    Schema.IsWait initialWait (field "retry" "max_wait") maxWait

theorem Settings.takenFrom_of_ofValue {lenient : Bool} {value : Value} {settings : Settings}
    (h : Settings.ofValue lenient value = .ok settings) {field : String → String → Option Value}
    (hfield : ∀ name ∈ Schema.sectionKeys, ∀ key,
      field name key = value.at? [.text name, .text key]) :
    settings.TakenFrom field := by
  obtain ⟨generator, retry, initialWait, maxWait, h⟩ := Settings.ofValue_eq_ok_iff.mp h
  have hgenerator (key : String) : field "generator" key = Entries.get? (.text key) generator := by
    rw [hfield "generator" (by decide), Value.at?_of_field? h.generatorAt]
  have hretry (key : String) : field "retry" key = Entries.get? (.text key) retry := by
    rw [hfield "retry" (by decide), Value.at?_of_field? h.retryAt]
  constructor
  case ceiling => exact (hgenerator _).trans h.inGenerator.ceilingAt
  case clock => exact (hgenerator _).trans h.inGenerator.clockAt
  case randomSource => exact (hgenerator _).trans h.inGenerator.randomSourceAt
  case seed =>
    rw [hgenerator]
    exact h.inGenerator.seedAt
  case maxAttempts => exact (hretry _).trans h.inRetry.maxAttemptsAt
  case waits =>
    have hwaits := h.waits
    refine ⟨initialWait, maxWait, by rw [hwaits], by rw [hwaits], ?_, ?_⟩
    · rw [hretry]
      exact h.inRetry.initialWaitAt
    · rw [hretry]
      exact h.inRetry.maxWaitAt

/-! ## What is rejected -/

theorem ofValue_of_not_map (lenient : Bool) {value : Value} (h : ∀ entries, value ≠ .map entries) :
    ∃ fault, Settings.ofValue lenient value = .error (.fault fault) := by
  cases value with
  | map entries => exact absurd rfl (h entries)
  | scalar s => exact ⟨_, rfl⟩
  | list items => exact ⟨_, rfl⟩
  | set members => exact ⟨_, rfl⟩

section

variable {lenient : Bool} {entries : Entries} {name : String} {value : Value}

theorem faults_of_section_not_map (hkeys : (Value.map entries).TextKeys)
    (hname : name ∈ Schema.sectionKeys) (hget : Entries.get? (.text name) entries = some value)
    (hvalue : ∀ inner, value ≠ .map inner) :
    Schema.Faults (Settings.ofValue lenient (.map entries)) := by
  refine (Schema.faults_keyed ?_).bind fun entries' hkeyed => ?_
  · rintro _ ⟨⟩
    exact hkeys.1
  · obtain ⟨⟨⟩, -⟩ := Schema.keyed_eq_ok_iff.mp hkeyed
    refine (Schema.faults_generator fun inner heq => ?_).bind fun _ hgenerator => ?_
    · have hinner := Schema.entry_eq_map_iff.mp heq
      have hinner : (Value.map inner).TextKeys := Value.Each.get? hkeys hinner
      exact hinner.1
    · -- The section `generator` is a mapping, so it is `retry` that is none.
      obtain ⟨inner, hmap, -⟩ := Schema.generator_eq_ok_iff.mp hgenerator
      have hinner := Schema.entry_eq_map_iff.mp hmap
      simp only [Schema.sectionKeys, List.mem_cons, List.not_mem_nil, or_false] at hname
      rcases hname with rfl | rfl
      · exact absurd (Option.some.inj (hget.symm.trans hinner)) (hvalue inner)
      · refine Schema.Faults.bind ?_ fun _ _ => Schema.faults_ok _
        have hentry : Schema.entry "retry" entries = value := by
          unfold Schema.entry
          rw [hget]
          rfl
        rw [hentry]
        exact Schema.faults_retry_of_not_map hvalue

/-- A mapping whose keys are texts is faulted if one of its two sections is no mapping. -/
theorem ofValue_of_section_not_map (hkeys : (Value.map entries).TextKeys)
    (hname : name ∈ Schema.sectionKeys) (hget : Entries.get? (.text name) entries = some value)
    (hvalue : ∀ inner, value ≠ .map inner) :
    ∃ fault, Settings.ofValue lenient (.map entries) = .error (.fault fault) := by
  cases hresult : Settings.ofValue lenient (.map entries) with
  | error failure =>
    obtain ⟨fault, rfl⟩ := faults_of_section_not_map hkeys hname hget hvalue failure hresult
    exact ⟨fault, rfl⟩
  | ok settings =>
    obtain ⟨_, _, _, _, h⟩ := Settings.ofValue_eq_ok_iff.mp hresult
    simp only [Schema.sectionKeys, List.mem_cons, List.not_mem_nil, or_false] at hname
    rcases hname with rfl | rfl
    · exact absurd (Option.some.inj (hget.symm.trans h.generatorAt)) (hvalue _)
    · exact absurd (Option.some.inj (hget.symm.trans h.retryAt)) (hvalue _)

end

/-- A section of an overlay that is no mapping takes the place of that of the base. -/
theorem ofValue_merge_of_section_not_map (lenient : Bool) {base overlay : Entries} {name : String}
    (hbase : (Value.map base).TextKeys) (hoverlay : (Value.map overlay).TextKeys)
    (hproper : (Value.map overlay).Proper) (hname : name ∈ Schema.sectionKeys)
    (hsection : ¬ MappingOrAbsent name overlay) :
    ∃ fault, Settings.ofValue lenient ((Value.map base).merge (.map overlay)) =
      .error (.fault fault) := by
  obtain ⟨value, hget, hvalue⟩ : ∃ value, Entries.get? (.text name) overlay = some value ∧
      ∀ inner, value ≠ .map inner := by
    simpa [MappingOrAbsent] using hsection
  have hmerged : Entries.get? (.text name) (mergeEntries base overlay) = some value := by
    rw [get?_mergeEntries hproper.1, hget]
    show some (changed base (.text name) value) = some value
    unfold changed
    split
    · rw [Value.merge_of_not_map hvalue]
    · rfl
  have hkeys := Value.textKeys_merge _ _ hbase hoverlay
  rw [Value.merge_maps] at hkeys ⊢
  exact ofValue_of_section_not_map hkeys hname hmerged hvalue

/-! ## Loading -/

namespace FileTree

variable {t : FileTree} {path : Path} {document : Yaml.Document}

theorem isPresent_of_readDocument (h : t.readDocument path = .ok document) :
    t.isPresent path = .ok true := by
  obtain ⟨text, htext, -⟩ := bind_eq_ok_iff.mp h
  obtain ⟨p, hp, htext⟩ := bind_eq_ok_iff.mp (mapError_eq_ok_iff.mp htext)
  unfold isPresent
  rw [hp]
  show Except.ok (t.get? p).isSome = _
  cases hget : t.get? p with
  | none =>
    rw [hget] at htext
    cases htext
  | some entry => rfl

section

variable {lenient : Bool} {directory overlayDirectory : Path}

theorem loadSettings_without
    (hbase : t.readDocument (directory.child configFileName) = .ok document) :
    t.loadSettings lenient directory none =
      (Settings.ofValue lenient document.value).mapError .config := by
  unfold loadSettings configValue
  simp only [isPresent_of_readDocument hbase, hbase, Option.map_none]
  rfl

theorem loadSettings_absent
    (hbase : t.readDocument (directory.child configFileName) = .ok document)
    (habsent : t.isPresent (overlayDirectory.child configFileName) = .ok false) :
    t.loadSettings lenient directory (some overlayDirectory) =
      (Settings.ofValue lenient document.value).mapError .config := by
  unfold loadSettings configValue
  simp only [isPresent_of_readDocument hbase, hbase, Option.map_some, habsent]
  rfl

theorem loadSettings_present {overlay : Yaml.Document}
    (hbase : t.readDocument (directory.child configFileName) = .ok document)
    (hoverlay : t.readDocument (overlayDirectory.child configFileName) = .ok overlay) :
    t.loadSettings lenient directory (some overlayDirectory) =
      (overlaid document overlay).bind fun value =>
        (Settings.ofValue lenient value).mapError .config := by
  unfold loadSettings configValue
  simp only [isPresent_of_readDocument hbase, hbase, Option.map_some,
    isPresent_of_readDocument hoverlay, hoverlay]
  rfl

end

end FileTree

theorem overlaid_of_endless {base overlay : Yaml.Document} (h : base.mergesForever overlay = true) :
    overlaid base overlay = .error .endless := if_pos h

section

variable {base overlay : Yaml.Document}

theorem overlaid_of_null (hends : ¬ base.mergesForever overlay = true)
    (h : overlay.value = .null) : overlaid base overlay = .ok base.value := by
  unfold overlaid
  rw [if_neg hends, h]

theorem overlaid_of_not_null (hends : ¬ base.mergesForever overlay = true)
    (h : overlay.value ≠ .null) :
    overlaid base overlay = .ok (base.value.merge overlay.value) := by
  unfold overlaid
  rw [if_neg hends]
  split
  · exact absurd ‹_› h
  · rfl

end

/-- **Overlays.** Let the file of a directory hold a mapping that the schema accepts. With an
overlay directory without a file these settings are loaded, as without any overlay. A file there
that has paths of keys of every length in common with that of the directory cannot be merged, and
loading fails with that. Any other overlay takes effect. One that is empty or the same gives the
same settings. One that is not empty and no mapping, or has a section that is none, is found
wanting. With any other, loading gives what the schema makes of the combination, and each setting
comes from the overlay's field if it is there, even if it is null, and else from the base's. The
keys of all mappings are texts. -/
theorem overlay_by_field {t : FileTree} {lenient : Bool} {directory overlayDirectory : Path}
    {document : Yaml.Document} {base : Entries} {settings : Settings}
    (hdocument : t.readDocument (directory.child configFileName) = .ok document)
    (hbase : document.value = .map base) (hkeys : (Value.map base).TextKeys)
    (haccepted : Settings.ofValue lenient (.map base) = .ok settings) :
    let load := t.loadSettings lenient directory (some overlayDirectory)
    t.loadSettings lenient directory none = .ok settings ∧
    (t.isPresent (overlayDirectory.child configFileName) = .ok false → load = .ok settings) ∧
    ∀ changed, t.readDocument (overlayDirectory.child configFileName) = .ok changed →
      ((∀ n, ∃ path, path.length = n ∧ document.Has path ∧ changed.Has path) →
        load = .error .endless) ∧
      ((∃ n, ∀ path, path.length = n → ¬ (document.Has path ∧ changed.Has path)) →
        changed.value.TextKeys →
        (changed.value = .null ∨ changed.value = .map base → load = .ok settings) ∧
        (changed.value ≠ .null → (∀ changes, changed.value ≠ .map changes) →
          ∃ fault, load = .error (.config (.fault fault))) ∧
        ∀ changes, changed.value = .map changes →
          ((∃ name ∈ ["generator", "retry"], ¬ MappingOrAbsent name changes) →
            ∃ fault, load = .error (.config (.fault fault))) ∧
          ((∀ name ∈ ["generator", "retry"], MappingOrAbsent name changes) → ∀ result,
            (load = .ok result ↔
              Settings.ofValue lenient (.map (combination base changes)) = .ok result) ∧
            (load = .ok result → result.TakenFrom fun name key =>
              ((Value.map changes).at? [.text name, .text key]).or
                ((Value.map base).at? [.text name, .text key])))) := by
  intro load
  refine ⟨?_, fun habsent => ?_, fun changed hchanged => ⟨fun hendless => ?_, ?_⟩⟩
  · rw [FileTree.loadSettings_without hdocument, hbase, haccepted]
    rfl
  · show t.loadSettings lenient directory (some overlayDirectory) = _
    rw [FileTree.loadSettings_absent hdocument habsent, hbase, haccepted]
    rfl
  · show t.loadSettings lenient directory (some overlayDirectory) = _
    rw [FileTree.loadSettings_present hdocument hchanged,
      overlaid_of_endless (Yaml.Document.mergesForever_iff.mpr hendless)]
    rfl
  rintro ⟨n, hn⟩ hchangedKeys
  have hends : ¬ document.mergesForever changed = true := fun hforever => by
    obtain ⟨path, hlength, hpath⟩ := Yaml.Document.mergesForever_iff.mp hforever n
    exact hn path hlength hpath
  have hload : load = (overlaid document changed).bind fun value =>
      (Settings.ofValue lenient value).mapError .config :=
    FileTree.loadSettings_present hdocument hchanged
  have hmerge (hnull : changed.value ≠ .null) :
      load =
        (Settings.ofValue lenient ((Value.map base).merge changed.value)).mapError .config := by
    rw [hload, overlaid_of_not_null hends hnull, hbase]
    rfl
  have hproper := changed.proper_value
  refine ⟨?_, fun hnull hmap => ?_, fun changes hchanges => ?_⟩
  · rintro (hnull | hsame)
    · rw [hload, overlaid_of_null hends hnull, hbase]
      show (Settings.ofValue lenient (.map base)).mapError LoadFailure.config = _
      rw [haccepted]
      rfl
    · rw [hsame] at hmerge hproper
      rw [hmerge nofun, Value.merge_self _ hproper, haccepted]
      rfl
  · obtain ⟨fault, hfault⟩ := ofValue_of_not_map lenient hmap
    rw [hmerge hnull, Value.merge_of_not_map hmap, hfault]
    exact ⟨fault, rfl⟩
  · rw [hchanges] at hmerge hproper hchangedKeys
    have hmerge := hmerge nofun
    refine ⟨?_, fun hsections result => ?_⟩
    · rintro ⟨name, hname, hsection⟩
      obtain ⟨fault, hfault⟩ :=
        ofValue_merge_of_section_not_map lenient hkeys hchangedKeys hproper hname hsection
      rw [hmerge, hfault]
      exact ⟨fault, rfl⟩
    · have hiff : load = .ok result ↔
          Settings.ofValue lenient (.map (combination base changes)) = .ok result := by
        rw [hmerge, mapError_eq_ok_iff]
        exact ofValue_merge_eq_ok_iff haccepted hproper hsections
      refine ⟨hiff, fun hok => Settings.takenFrom_of_ofValue (hiff.mp hok) ?_⟩
      exact fun name hname key => (at?_combination hname key).symm

/-- Whether a document was read and holds a mapping with a property can be computed if the property
can. -/
instance {ε : Type} {property : Yaml.Document → Entries → Prop}
    [∀ document, DecidablePred (property document)] (read : Except ε Yaml.Document) :
    Decidable (∃ document entries, read = .ok document ∧ document.value = .map entries ∧
      property document entries) :=
  match read with
  | .error _ => isFalse nofun
  | .ok document =>
    match hvalue : document.value with
    | .map entries =>
      if h : property document entries then isTrue ⟨document, entries, rfl, hvalue, h⟩
      else isFalse fun ⟨_, _, heq, hmap, hproperty⟩ => by
        cases heq
        cases hvalue.symm.trans hmap
        exact h hproperty
    | .scalar _ | .list _ | .set _ => isFalse fun ⟨_, _, heq, hmap, _⟩ => by
        cases heq
        cases hvalue.symm.trans hmap

/-- An overlay that turns on a seed: the fields that it lacks come from the base. -/
theorem overlay_by_field_seeded :
    let t := (FileTree.empty.plant ["generator.yml"] (.text
        ("\x7bgenerator: \x7bmax_per_msec_size: 9, clock: utc, random_source: system\x7d, " ++
          "retry: \x7bmax_attempts: 1, initial_wait: 0, max_wait: 0\x7d\x7d"))).plant
      ["overlay", "generator.yml"] (.text
        "generator: \x7brandom_source: seeded, seed: 3\x7d")
    let settings := ⟨9, "utc", "seeded", some 3, ⟨1, .float .zero, .float .zero⟩⟩
    t.loadSettings false (.ofText ".") (some (.ofText "overlay")) = .ok settings ∧
    ∃ base changes document changed,
      t.readDocument ((Path.ofText ".").child configFileName) = .ok document ∧
      document.value = .map base ∧
      t.readDocument ((Path.ofText "overlay").child configFileName) = .ok changed ∧
      changed.value = .map changes ∧
      settings.TakenFrom fun name key =>
        ((Value.map changes).at? [.text name, .text key]).or
          ((Value.map base).at? [.text name, .text key]) := by
  intro t settings
  have hload : t.loadSettings false (.ofText ".") (some (.ofText "overlay")) = .ok settings := by
    decide +kernel
  obtain ⟨document, base, hdocument, hbase, hkeys, haccepted⟩ : ∃ document base,
      t.readDocument ((Path.ofText ".").child configFileName) = .ok document ∧
      document.value = .map base ∧ (Value.map base).TextKeys ∧
        Settings.ofValue false (.map base) =
          .ok ⟨9, "utc", "system", none, ⟨1, .float .zero, .float .zero⟩⟩ := by
    decide +kernel
  obtain ⟨changed, changes, hchanged, hchanges, hkeys', hsections⟩ : ∃ changed changes,
      t.readDocument ((Path.ofText "overlay").child configFileName) = .ok changed ∧
      changed.value = .map changes ∧ changed.value.TextKeys ∧
        ∀ name ∈ ["generator", "retry"], MappingOrAbsent name changes := by
    decide +kernel
  obtain ⟨-, -, hoverlay⟩ := overlay_by_field hdocument hbase hkeys haccepted
  have hends : ∃ n, ∀ path, path.length = n → ¬ (document.Has path ∧ changed.Has path) := by
    by_contra hendless
    have hforever := (hoverlay _ hchanged).1 fun n => by
      by_contra hnone
      exact hendless ⟨n, fun path hlength hpath => hnone ⟨path, hlength, hpath⟩⟩
    rw [hload] at hforever
    cases hforever
  obtain ⟨-, -, hmapping⟩ := (hoverlay _ hchanged).2 hends hkeys'
  exact ⟨hload, base, changes, document, changed, hdocument, hbase, hchanged, hchanges,
    ((hmapping changes hchanges).2 hsections settings).2 hload⟩

/-- A mapping that lies within itself cannot be laid over its like, although it stands in a file
that is accepted: an overlay with the same text as the base fails. -/
theorem overlay_within_itself :
    let text :=
      "\x7bgenerator: \x7bmax_per_msec_size: 9, clock: utc, random_source: system\x7d, " ++
        "retry: \x7bmax_attempts: 1, initial_wait: 0, max_wait: 0\x7d, " ++
        "more: &a \x7bagain: *a\x7d\x7d"
    let t := (FileTree.empty.plant ["generator.yml"] (.text text)).plant
      ["overlay", "generator.yml"] (.text text)
    let settings := ⟨9, "utc", "system", none, ⟨1, .float .zero, .float .zero⟩⟩
    (∃ document base, t.readDocument ((Path.ofText ".").child configFileName) = .ok document ∧
      document.value = .map base ∧ (Value.map base).TextKeys ∧
        Settings.ofValue true (.map base) = .ok settings) ∧
    t.loadSettings true (.ofText ".") none = .ok settings ∧
    t.loadSettings true (.ofText ".") (some (.ofText "overlay")) = .error .endless := by
  decide +kernel

end Sequencer

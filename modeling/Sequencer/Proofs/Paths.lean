import Sequencer.Proofs.Merging

/-!
# Merging along paths

What a merge has at the end of a path of keys is what the overlay has there, merged into what the
base has there (`Value.at?_merge`). Where the overlay has nothing, because a mapping on the way does
not have the next key, it is what the base has; where something on the way is no mapping, there is
nothing (`merge_along_paths`).
-/

namespace Sequencer

namespace Value

/-- No mapping of the value has a key twice. -/
def DistinctKeys : Value → Prop := Value.Each (fun _ => True) List.Nodup

instance (value : Value) : Decidable value.DistinctKeys :=
  Value.decideEach (fun _ => True) List.Nodup value

/-- On its way the path comes to a mapping that does not have the next key. -/
def Lacks (value : Value) (path : List Scalar) : Prop :=
  ∃ front key back entries, path = front ++ key :: back ∧
    value.at? front = some (.map entries) ∧ Entries.get? key entries = none

/-- On its way the path comes to something that is no mapping. -/
def Blocks (value : Value) (path : List Scalar) : Prop :=
  ∃ front key back inner, path = front ++ key :: back ∧
    value.at? front = some inner ∧ ∀ entries, inner ≠ .map entries

/-! ## Following paths -/

@[simp] theorem at?_nil (value : Value) : value.at? [] = some value := by
  unfold at?
  rfl

theorem at?_map_cons (entries : Entries) (key : Scalar) (rest : List Scalar) :
    (Value.map entries).at? (key :: rest) =
      (Entries.get? key entries).bind fun inner => inner.at? rest := by
  rw [at?]

theorem at?_cons_of_not_map {value : Value} (h : ∀ entries, value ≠ .map entries) (key : Scalar)
    (rest : List Scalar) : value.at? (key :: rest) = none := by
  cases value with
  | map entries => exact absurd rfl (h entries)
  | scalar s => rfl
  | list items => rfl
  | set members => rfl

theorem at?_append (value : Value) (front back : List Scalar) :
    value.at? (front ++ back) = (value.at? front).bind fun inner => inner.at? back := by
  induction front generalizing value with
  | nil => simp
  | cons key rest ih =>
    by_cases h : ∃ entries, value = .map entries
    · obtain ⟨entries, rfl⟩ := h
      rw [List.cons_append, at?_map_cons, at?_map_cons, Option.bind_assoc]
      exact congrArg _ (funext fun inner => ih inner)
    · have hnot := not_exists.mp h
      rw [List.cons_append, at?_cons_of_not_map hnot, at?_cons_of_not_map hnot]
      rfl

theorem Each.at? {scalar : Scalar → Prop} {keys : List Scalar → Prop} {value inner : Value}
    {path : List Scalar} (h : value.Each scalar keys) (hat : value.at? path = some inner) :
    inner.Each scalar keys := by
  induction path generalizing value with
  | nil =>
    obtain rfl : value = inner := by simpa using hat
    exact h
  | cons key rest ih =>
    by_cases hmap : ∃ entries, value = .map entries
    · obtain ⟨entries, rfl⟩ := hmap
      rw [at?_map_cons] at hat
      obtain ⟨next, hget, hrest⟩ := Option.bind_eq_some_iff.mp hat
      exact ih (h.get? hget) hrest
    · rw [at?_cons_of_not_map (not_exists.mp hmap)] at hat
      cases hat

/-- Nothing is at the end of a path that misses a key or is blocked on its way, and of no other. -/
theorem at?_eq_none_iff {value : Value} {path : List Scalar} :
    value.at? path = none ↔ value.Lacks path ∨ value.Blocks path := by
  constructor
  · intro h
    induction path generalizing value with
    | nil => simp at h
    | cons key rest ih =>
      by_cases hmap : ∃ entries, value = .map entries
      · obtain ⟨entries, rfl⟩ := hmap
        cases hget : Entries.get? key entries with
        | none => exact .inl ⟨[], key, rest, entries, rfl, at?_nil _, hget⟩
        | some next =>
          rw [at?_map_cons, hget] at h
          have hnext : ∀ front, (Value.map entries).at? (key :: front) = next.at? front := by
            intro front
            rw [at?_map_cons, hget, Option.bind_some]
          rcases ih h with ⟨front, k, back, inner, rfl, hat, hk⟩ |
            ⟨front, k, back, inner, rfl, hat, hk⟩
          · exact .inl ⟨key :: front, k, back, inner, rfl, (hnext front).trans hat, hk⟩
          · exact .inr ⟨key :: front, k, back, inner, rfl, (hnext front).trans hat, hk⟩
      · exact .inr ⟨[], key, rest, value, rfl, at?_nil _, not_exists.mp hmap⟩
  · rintro (⟨front, key, back, entries, rfl, hat, hget⟩ | ⟨front, key, back, inner, rfl, hat, hnot⟩)
    · rw [at?_append, hat, Option.bind_some, at?_map_cons, hget]
      rfl
    · rw [at?_append, hat, Option.bind_some, at?_cons_of_not_map hnot]

/-! ## Merging -/

/-- What the overlay has at the end of a path is merged into what the base has there. -/
theorem at?_merge {base overlay inner : Value} {path : List Scalar} (h : overlay.DistinctKeys)
    (hat : overlay.at? path = some inner) :
    (base.merge overlay).at? path = some (match base.at? path with
      | some old => old.merge inner
      | none => inner) := by
  induction path generalizing base overlay with
  | nil =>
    obtain rfl : overlay = inner := by simpa using hat
    simp
  | cons key rest ih =>
    by_cases hoverlay : ∃ changes, overlay = .map changes
    · obtain ⟨changes, rfl⟩ := hoverlay
      have hnext := hat
      rw [at?_map_cons] at hnext
      obtain ⟨next, hget, hrest⟩ := Option.bind_eq_some_iff.mp hnext
      by_cases hbase : ∃ entries, base = .map entries
      · obtain ⟨entries, rfl⟩ := hbase
        rw [merge_maps, at?_map_cons, get?_mergeEntries h.1, hget, at?_map_cons]
        dsimp only
        rw [Option.bind_some, changed]
        cases hold : Entries.get? key entries with
        | none => exact hrest
        | some old => exact ih (h.get? hget) hrest
      · have hnot := not_exists.mp hbase
        rw [merge_of_base_not_map hnot, at?_cons_of_not_map hnot, hat]
    · rw [at?_cons_of_not_map (not_exists.mp hoverlay)] at hat
      cases hat

/-- What a merge has at the end of a path. -/
structure MergedAt (base overlay merged : Value) (path : List Scalar) : Prop where
  /-- What is no mapping takes the place of whatever the base has. -/
  replaced : ∀ inner, overlay.at? path = some inner → (∀ entries, inner ≠ .map entries) →
    merged.at? path = some inner
  /-- So does a mapping where the base has none. -/
  added : ∀ changes, overlay.at? path = some (.map changes) →
    (∀ entries, base.at? path ≠ some (.map entries)) → merged.at? path = some (.map changes)
  /-- Of two mappings the keys of the base come first and then the new ones, both in their order. -/
  combined : ∀ entries changes, base.at? path = some (.map entries) →
    overlay.at? path = some (.map changes) →
    ∃ both, merged.at? path = some (.map both) ∧ both.map Prod.fst =
      entries.map Prod.fst ++ (changes.map Prod.fst).filter (· ∉ entries.map Prod.fst)
  kept : overlay.Lacks path → merged.at? path = base.at? path
  cut : overlay.Blocks path → merged.at? path = none

theorem at?_merge_of_lacks {base overlay : Value} {path : List Scalar} (h : overlay.DistinctKeys)
    (hlacks : overlay.Lacks path) : (base.merge overlay).at? path = base.at? path := by
  obtain ⟨front, key, back, changes, rfl, hat, hget⟩ := hlacks
  rw [at?_append, at?_append, at?_merge h hat, Option.bind_some]
  have hchanges : (Value.map changes).at? (key :: back) = none := by
    rw [at?_map_cons, hget]
    rfl
  cases base.at? front with
  | none => exact hchanges
  | some old =>
    dsimp only
    by_cases hmap : ∃ entries, old = .map entries
    · obtain ⟨entries, rfl⟩ := hmap
      rw [merge_maps, at?_map_cons, get?_mergeEntries (h.at? hat).1, hget, Option.bind_some,
        at?_map_cons]
    · have hnot := not_exists.mp hmap
      rw [merge_of_base_not_map hnot, hchanges, Option.bind_some, at?_cons_of_not_map hnot]

theorem at?_merge_of_blocks {base overlay : Value} {path : List Scalar} (h : overlay.DistinctKeys)
    (hblocks : overlay.Blocks path) : (base.merge overlay).at? path = none := by
  obtain ⟨front, key, back, inner, rfl, hat, hnot⟩ := hblocks
  have hfront : (base.merge overlay).at? front = some inner := by
    rw [at?_merge h hat]
    cases base.at? front with
    | none => rfl
    | some old => exact congrArg some (merge_of_not_map hnot)
  rw [at?_append, hfront, Option.bind_some, at?_cons_of_not_map hnot]

theorem mergedAt_merge {base overlay : Value} (h : overlay.DistinctKeys) (path : List Scalar) :
    MergedAt base overlay (base.merge overlay) path where
  replaced inner hat hnot := by
    rw [at?_merge h hat]
    cases base.at? path with
    | none => rfl
    | some old => exact congrArg some (merge_of_not_map hnot)
  added changes hat hbase := by
    rw [at?_merge h hat]
    cases hold : base.at? path with
    | none => rfl
    | some old =>
      refine congrArg some (merge_of_base_not_map (fun entries heq => ?_) _)
      exact hbase entries (by rw [hold, heq])
  combined entries changes hbase hat := by
    refine ⟨mergeEntries entries changes, ?_, keys_mergeEntries (h.at? hat).1⟩
    rw [at?_merge h hat, hbase]
    dsimp only
    rw [merge_maps]
  kept := at?_merge_of_lacks h
  cut := at?_merge_of_blocks h

end Value

/-- **Merging along paths.** Let neither value have a mapping with a key twice. Whatever path is
taken, the merge has at its end what the overlay has, or both mappings combined, or what the base
has, or nothing, as `Value.MergedAt` says; the overlay has nothing there iff a key is missing on the
way or something on the way is no mapping. To merge the overlay in again changes nothing, and
neither does merging a value with itself or an empty mapping into a mapping. -/
theorem merge_along_paths {base overlay : Value} (hbase : base.DistinctKeys)
    (hoverlay : overlay.DistinctKeys) :
    (∀ path, Value.MergedAt base overlay (base.merge overlay) path ∧
      (overlay.at? path = none ↔ overlay.Lacks path ∨ overlay.Blocks path)) ∧
    (base.merge overlay).merge overlay = base.merge overlay ∧
    base.merge base = base ∧
    ∀ entries, (Value.map entries).merge (.map []) = .map entries := by
  refine ⟨fun path => ⟨Value.mergedAt_merge hoverlay path, Value.at?_eq_none_iff⟩,
    Value.merge_merge_self base overlay hoverlay, Value.merge_self base hbase, fun entries => ?_⟩
  rw [Value.merge_maps, mergeEntries]

/-- A mapping over a scalar, a scalar over a mapping, and two mappings with keys of their own. -/
theorem merge_along_paths_mixed :
    let base : Value := .ofFields
      [("a", .ofFields [("x", .int 1), ("y", .ofFields [("p", .null)])]), ("b", .int 5)]
    let overlay : Value := .ofFields [("b", .ofFields [("q", .ofFields [])]),
      ("a", .ofFields [("z", .bool true), ("y", .int 7)])]
    let merged := base.merge overlay
    (base.DistinctKeys ∧ overlay.DistinctKeys) ∧
      merged.at? [.text "a", .text "y"] = some (.int 7) ∧
      merged.at? [.text "a", .text "y", .text "p"] = none ∧
      merged.at? [.text "b"] = some (.ofFields [("q", .ofFields [])]) ∧
      merged.at? [.text "a", .text "x"] = some (.int 1) ∧
      (∃ both, merged.at? [.text "a"] = some (.map both) ∧
        both.map Prod.fst = [.text "x", .text "y", .text "z"]) ∧
      merged.merge overlay = merged ∧ base.merge base = base := by
  intro base overlay merged
  have hbase : base.DistinctKeys := by decide +kernel
  have hoverlay : overlay.DistinctKeys := by decide +kernel
  obtain ⟨hpaths, hagain, hself, -⟩ := merge_along_paths hbase hoverlay
  refine ⟨⟨hbase, hoverlay⟩, ?_, ?_, ?_, ?_, ?_, hagain, hself⟩
  · exact (hpaths _).1.replaced _ rfl nofun
  · exact (hpaths _).1.cut ⟨[.text "a", .text "y"], .text "p", [], .int 7, rfl, rfl, nofun⟩
  · exact (hpaths _).1.added _ rfl nofun
  · exact (hpaths _).1.kept ⟨[.text "a"], .text "x", [], _, rfl, rfl, rfl⟩
  · obtain ⟨both, hat, hkeys⟩ := (hpaths [.text "a"]).1.combined _ _ rfl rfl
    exact ⟨both, hat, hkeys.trans (by decide +kernel)⟩

end Sequencer

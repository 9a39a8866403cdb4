import Sequencer.Config.Loading
import Sequencer.Proofs.Values

/-!
# What merging does to entries

A merge is described by what is found under each key: where only one of base and overlay has the
key, its value, and where both have it, the two values merged. The keys of the base come first, in
their order. The overlay must not have a key twice. A value merged with itself gives itself back,
and an overlay that is merged in twice is merged in once.
-/

namespace Sequencer

theorem Value.merge_of_not_map {base overlay : Value} (h : ∀ entries, overlay ≠ .map entries) :
    base.merge overlay = overlay := by
  cases overlay with
  | map entries => exact absurd rfl (h entries)
  | scalar s => simp [Value.merge]
  | list items => simp [Value.merge]
  | set members => simp [Value.merge]

theorem Value.merge_of_base_not_map {base : Value} (h : ∀ entries, base ≠ .map entries)
    (overlay : Value) : base.merge overlay = overlay := by
  cases overlay with
  | map changes =>
    cases base with
    | map entries => exact absurd rfl (h entries)
    | scalar s => simp [Value.merge]
    | list items => simp [Value.merge]
    | set members => simp [Value.merge]
  | scalar s => simp [Value.merge]
  | list items => simp [Value.merge]
  | set members => simp [Value.merge]

theorem Value.merge_maps (entries changes : Entries) :
    (Value.map entries).merge (.map changes) = .map (mergeEntries entries changes) := by
  simp [Value.merge]

/-- What a change puts under its key. -/
def changed (entries : Entries) (key : Scalar) (value : Value) : Value :=
  match Entries.get? key entries with
  | some old => old.merge value
  | none => value

theorem mergeEntries_cons (entries : Entries) (key : Scalar) (value : Value) (rest : Entries) :
    mergeEntries entries ((key, value) :: rest) =
      mergeEntries (Entries.put key (changed entries key value) entries) rest := by
  rw [mergeEntries, changed]
  cases Entries.get? key entries <;> rfl

/-- What is found under a key of merged entries. -/
theorem get?_mergeEntries {entries changes : Entries} (hdistinct : (changes.map Prod.fst).Nodup)
    (key : Scalar) :
    Entries.get? key (mergeEntries entries changes) =
      match Entries.get? key changes with
      | some value => some (changed entries key value)
      | none => Entries.get? key entries := by
  induction changes generalizing entries with
  | nil => simp [mergeEntries]
  | cons change rest ih =>
    obtain ⟨k, v⟩ := change
    rw [List.map_cons, List.nodup_cons] at hdistinct
    rw [mergeEntries_cons, ih hdistinct.2, Entries.get?_cons]
    by_cases hk : key = k
    · subst hk
      rw [if_pos rfl, Entries.get?_eq_none_iff.mpr hdistinct.1]
      exact Entries.get?_put_self ..
    · rw [if_neg hk]
      cases hrest : Entries.get? key rest with
      | none => exact Entries.get?_put_of_ne _ _ hk
      | some value =>
        show some (changed _ key value) = some (changed entries key value)
        unfold changed
        rw [Entries.get?_put_of_ne _ _ hk]

theorem mem_keys_mergeEntries {entries changes : Entries} {key : Scalar} :
    key ∈ (mergeEntries entries changes).map Prod.fst ↔
      key ∈ changes.map Prod.fst ∨ key ∈ entries.map Prod.fst := by
  induction changes generalizing entries with
  | nil => simp [mergeEntries]
  | cons change rest ih =>
    obtain ⟨k, v⟩ := change
    rw [mergeEntries_cons, ih, Entries.mem_keys_put, List.map_cons, List.mem_cons]
    exact or_left_comm.trans or_assoc.symm

theorem Entries.keys_put (key : Scalar) (value : Value) (entries : Entries) :
    (put key value entries).map Prod.fst =
      entries.map Prod.fst ++ if key ∈ entries.map Prod.fst then [] else [key] := by
  induction entries with
  | nil => simp [put]
  | cons e rest ih =>
    obtain ⟨k, v⟩ := e
    unfold put
    by_cases hk : k = key
    · simp [hk]
    · have hmem : key ∈ ((k, v) :: rest).map Prod.fst ↔ key ∈ rest.map Prod.fst := by
        simp [Ne.symm hk]
      rw [if_neg hk, if_congr hmem rfl rfl, List.map_cons, List.map_cons, ih, List.cons_append]

/-- Merged entries keep the keys of the base in their order; the new keys of the overlay come after
them, in the overlay's order. -/
theorem keys_mergeEntries {entries changes : Entries}
    (hdistinct : (changes.map Prod.fst).Nodup) :
    (mergeEntries entries changes).map Prod.fst =
      entries.map Prod.fst ++ (changes.map Prod.fst).filter (· ∉ entries.map Prod.fst) := by
  induction changes generalizing entries with
  | nil => simp [mergeEntries]
  | cons change rest ih =>
    obtain ⟨k, v⟩ := change
    rw [List.map_cons, List.nodup_cons] at hdistinct
    rw [mergeEntries_cons, ih hdistinct.2, Entries.keys_put, List.map_cons]
    by_cases hk : k ∈ entries.map Prod.fst
    · rw [if_pos hk, List.append_nil, List.filter_cons_of_neg (by simpa using hk)]
    · -- The key is put behind those of the base, and is none of the keys still to come.
      have hrest : (rest.map Prod.fst).filter (· ∉ entries.map Prod.fst ++ [k]) =
          (rest.map Prod.fst).filter (· ∉ entries.map Prod.fst) := by
        refine List.filter_congr fun key hkey => ?_
        have hne : key ≠ k := fun heq => hdistinct.1 (heq ▸ hkey)
        simp [hne]
      rw [if_neg hk, hrest, List.filter_cons_of_pos (by simpa using hk), List.append_assoc]
      rfl

/-! ## Merging again -/

theorem Entries.put_of_get? {key : Scalar} {value : Value} {entries : Entries}
    (h : get? key entries = some value) : put key value entries = entries := by
  induction entries with
  | nil => cases h
  | cons e rest ih =>
    obtain ⟨k, v⟩ := e
    rw [get?_cons] at h
    unfold put
    by_cases hk : key = k
    · rw [if_pos hk] at h
      rw [if_pos hk.symm, Option.some.inj h]
    · rw [if_neg hk] at h
      rw [if_neg (Ne.symm hk), ih h]

/-- Changes that are absorbed by what is there already change nothing. -/
theorem mergeEntries_of_absorbed {entries changes : Entries}
    (h : ∀ e ∈ changes, ∃ old, Entries.get? e.1 entries = some old ∧ old.merge e.2 = old) :
    mergeEntries entries changes = entries := by
  induction changes with
  | nil => simp [mergeEntries]
  | cons e rest ih =>
    obtain ⟨k, v⟩ := e
    obtain ⟨old, hget, habsorbed⟩ := h _ List.mem_cons_self
    rw [mergeEntries_cons, changed, hget]
    simp only [habsorbed]
    rw [Entries.put_of_get? hget]
    exact ih fun e he => h e (List.mem_cons_of_mem _ he)

mutual

theorem Value.merge_self {scalar : Scalar → Prop} : (value : Value) →
    value.Each scalar List.Nodup → value.merge value = value
  | .scalar s, _ => Value.merge_of_not_map fun _ => nofun
  | .list items, _ => Value.merge_of_not_map fun _ => nofun
  | .set members, _ => Value.merge_of_not_map fun _ => nofun
  | .map entries, h => by
    rw [Value.merge_maps, mergeEntries_of_absorbed fun e he =>
      ⟨e.2, Entries.get?_of_mem h.1 he, merge_self_of_mem entries h.2 e he⟩]

/-- The values of entries without repeated keys, each merged with itself. -/
theorem merge_self_of_mem {scalar : Scalar → Prop} : (entries : List (Scalar × Value)) →
    entriesEach scalar List.Nodup entries → ∀ e ∈ entries, e.2.merge e.2 = e.2
  | [], _, e, he => absurd he List.not_mem_nil
  | (k, v) :: rest, h, e, he => by
    rcases List.mem_cons.mp he with rfl | he
    · exact Value.merge_self v h.1
    · exact merge_self_of_mem rest h.2 e he

end

mutual

/-- An overlay that is merged in already is merged into nothing new. -/
theorem Value.merge_merge_self {scalar : Scalar → Prop} : (base overlay : Value) →
    overlay.Each scalar List.Nodup → (base.merge overlay).merge overlay = base.merge overlay
  | base, .scalar s, _ => by simp only [Value.merge]
  | base, .list items, _ => by simp only [Value.merge]
  | base, .set members, _ => by simp only [Value.merge]
  | base, .map changes, h => by
    by_cases hmap : ∃ entries, base = .map entries
    · obtain ⟨entries, rfl⟩ := hmap
      rw [Value.merge_maps, Value.merge_maps, mergeEntries_of_absorbed fun e he => ?_]
      refine ⟨changed entries e.1 e.2, ?_, ?_⟩
      · rw [get?_mergeEntries h.1, Entries.get?_of_mem h.1 he]
      · unfold changed
        split
        · exact merge_merge_self_of_mem changes h.2 e he _
        · exact merge_self_of_mem changes h.2 e he
    · rw [Value.merge_of_base_not_map (not_exists.mp hmap), Value.merge_self _ h]

theorem merge_merge_self_of_mem {scalar : Scalar → Prop} : (changes : List (Scalar × Value)) →
    entriesEach scalar List.Nodup changes →
    ∀ e ∈ changes, ∀ old : Value, (old.merge e.2).merge e.2 = old.merge e.2
  | [], _, e, he, _ => absurd he List.not_mem_nil
  | (k, v) :: rest, h, e, he, old => by
    rcases List.mem_cons.mp he with rfl | he
    · exact Value.merge_merge_self old v h.1
    · exact merge_merge_self_of_mem rest h.2 e he old

end

/-! ## Keys that are texts -/

theorem Entries.textKeys_put {key : Scalar} {value : Value} {entries : Entries}
    (hkey : ∃ name, key = .text name) (hvalue : value.TextKeys)
    (h : (Value.map entries).TextKeys) : (Value.map (put key value entries)).TextKeys := by
  refine ⟨fun k hk => ?_, entriesEach_iff.mpr fun e he => ?_⟩
  · rcases mem_keys_put.mp hk with rfl | hk
    · exact hkey
    · exact h.1 k hk
  · rcases mem_put he with heq | he
    · rw [heq]
      exact hvalue
    · exact entriesEach_iff.mp h.2 e he

mutual

theorem Value.textKeys_merge : (base overlay : Value) → base.TextKeys → overlay.TextKeys →
    (base.merge overlay).TextKeys
  | base, .scalar s, _, h => by simpa only [Value.merge] using h
  | base, .list items, _, h => by simpa only [Value.merge] using h
  | base, .set members, _, h => by simpa only [Value.merge] using h
  | base, .map changes, hbase, h => by
    by_cases hmap : ∃ entries, base = .map entries
    · obtain ⟨entries, rfl⟩ := hmap
      rw [Value.merge_maps]
      exact textKeys_mergeEntries changes h.1 h.2 entries hbase
    · rw [Value.merge_of_base_not_map fun entries heq => hmap ⟨entries, heq⟩]
      exact h

theorem textKeys_mergeEntries : (changes : List (Scalar × Value)) →
    (∀ key ∈ changes.map Prod.fst, ∃ name, key = .text name) →
    entriesEach (fun _ => True) (fun keys => ∀ key ∈ keys, ∃ name, key = .text name) changes →
    ∀ entries, (Value.map entries).TextKeys → (Value.map (mergeEntries entries changes)).TextKeys
  | [], _, _, entries, hentries => by simpa [mergeEntries] using hentries
  | (key, value) :: rest, hkeys, h, entries, hentries => by
    have hvalue : (changed entries key value).TextKeys := by
      unfold changed
      split
      · rename_i old hold
        have hold : old.TextKeys := entriesEach_iff.mp hentries.2 _ (Entries.mem_of_get? hold)
        exact Value.textKeys_merge old value hold h.1
      · exact h.1
    rw [mergeEntries_cons]
    exact textKeys_mergeEntries rest (fun k hk => hkeys k (List.mem_cons_of_mem _ hk)) h.2 _
      (Entries.textKeys_put (hkeys key List.mem_cons_self) hvalue hentries)

end

end Sequencer

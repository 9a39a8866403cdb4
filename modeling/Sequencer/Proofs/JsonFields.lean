import Sequencer.Proofs.JsonText

/-!
# Mappings and documents

A mapping is made of named fields, and a look-up in it is one among the fields
(`Value.field?_ofFields`). In a document the entries are sorted by their keys. That keeps a JSON
value one (`Json.isJson_sortKeys`) and finds the same under every name (`Json.field?_sortKeys`), so
a document that is read back tells the fields it was made of (`Json.exists_read?_fields`).
-/

namespace Sequencer

/-! ## Fields -/

theorem entriesJson_iff {entries : Entries} :
    entriesJson entries ↔ ∀ e ∈ entries, (∃ name, e.1 = .text name) ∧ e.2.IsJson := by
  induction entries with
  | nil => simp [entriesJson]
  | cons e rest ih => simp [entriesJson, ih, and_assoc]

/-- A mapping of different names to JSON values is one. -/
theorem isJson_ofFields {fields : List (String × Value)} (hnames : (fields.map Prod.fst).Nodup)
    (h : ∀ field ∈ fields, field.2.IsJson) : (Value.ofFields fields).IsJson := by
  refine ⟨?_, entriesJson_iff.mpr fun e he => ?_⟩
  · rw [List.map_map]
    have hkeys : (Prod.fst ∘ fun field : String × Value => (Scalar.text field.1, field.2)) =
        Scalar.text ∘ Prod.fst := rfl
    rw [hkeys, ← List.map_map]
    exact List.Pairwise.map _ (fun _ _ hne heq => hne (Scalar.text.inj heq)) hnames
  · obtain ⟨field, hfield, rfl⟩ := List.mem_map.mp he
    exact ⟨⟨field.1, rfl⟩, h field hfield⟩

theorem Value.field?_ofFields (fields : List (String × Value)) (name : String) :
    (Value.ofFields fields).field? name = fields.lookup name := by
  unfold Value.ofFields Value.field? Entries.get?
  dsimp only
  induction fields with
  | nil => rfl
  | cons field rest ih =>
    have hkey : (Scalar.text name == Scalar.text field.1) = (name == field.1) := by
      simp [Bool.beq_eq_decide_eq]
    rw [List.map_cons, List.lookup_cons, List.lookup_cons, hkey, ih]

/-! ## Sorted keys -/

namespace Json

theorem perm_insertEntry (entry : Scalar × Value) (entries : Entries) :
    (insertEntry entry entries).Perm (entry :: entries) := by
  induction entries with
  | nil => rfl
  | cons other rest ih =>
    rw [insertEntry]
    split
    · exact (ih.cons other).trans (.swap entry other rest)
    · rfl

/-- Sorted entries are those with sorted keys inside, in another order. -/
theorem perm_sortEntries (entries : Entries) :
    (sortEntries entries).Perm (entries.map fun (key, value) => (key, sortKeys value)) := by
  induction entries with
  | nil => rfl
  | cons e rest ih => exact (perm_insertEntry _ _).trans (ih.cons _)

theorem nodup_keys_sortEntries {entries : Entries} (h : (entries.map Prod.fst).Nodup) :
    ((sortEntries entries).map Prod.fst).Nodup := by
  rw [((perm_sortEntries entries).map Prod.fst).nodup_iff, List.map_map]
  exact h

theorem get?_sortEntries {entries : Entries} (h : (entries.map Prod.fst).Nodup) (key : Scalar) :
    Entries.get? key (sortEntries entries) = (entries.get? key).map sortKeys := by
  rw [Entries.get?_perm (perm_sortEntries entries) (nodup_keys_sortEntries h)]
  unfold Entries.get?
  clear h
  induction entries with
  | nil => rfl
  | cons e rest ih =>
    rw [List.map_cons, List.lookup_cons, List.lookup_cons, ih]
    cases key == e.1 <;> rfl

mutual

/-- Sorting the keys of a JSON value gives one. -/
theorem isJson_sortKeys : (v : Value) → v.IsJson → (sortKeys v).IsJson
  | .null, _ | .bool _, _ | .int _, _ | .text _, _ => trivial
  | .list items, h => itemsJson_sortItems items h
  | .map entries, h => ⟨nodup_keys_sortEntries h.1, entriesJson_sortEntries entries h.2⟩

theorem itemsJson_sortItems : (items : List Value) → itemsJson items →
    itemsJson (sortItems items)
  | [], _ => trivial
  | item :: rest, h => ⟨isJson_sortKeys item h.1, itemsJson_sortItems rest h.2⟩

theorem entriesJson_sortEntries : (entries : Entries) → entriesJson entries →
    entriesJson (sortEntries entries)
  | [], _ => trivial
  | (key, value) :: rest, h => by
    have hrest := entriesJson_sortEntries rest h.2.2
    have hcons : entriesJson ((key, sortKeys value) :: sortEntries rest) :=
      ⟨h.1, isJson_sortKeys value h.2.1, hrest⟩
    refine entriesJson_iff.mpr fun e he => entriesJson_iff.mp hcons e ?_
    exact (perm_insertEntry _ _).mem_iff.mp he

end

/-- With its keys sorted a JSON value has the same under every name, itself with its keys sorted. -/
theorem field?_sortKeys {v : Value} (h : v.IsJson) (name : String) :
    (sortKeys v).field? name = (v.field? name).map sortKeys := by
  cases v with
  | scalar | list | set => rfl
  | map entries => exact get?_sortEntries h.1 (.text name)

/-- The text of a JSON value as a document reads back as the value with its entries sorted. -/
theorem read?_document {v : Value} (h : v.IsJson) {text : String}
    (htext : document? v = .ok text) : read? text = some (sortKeys v) := by
  rw [(checked_eq_ok_iff.mp htext).2]
  exact read?_write Layout.isBlank_page (isJson_sortKeys v h) 0
    (List.forall_mem_singleton.mpr (by decide))

/-- A document of different fields with JSON values reads back as a mapping in which each is found
under its name. -/
theorem exists_read?_fields {fields : List (String × Value)}
    (hnames : (fields.map Prod.fst).Nodup) (h : ∀ field ∈ fields, field.2.IsJson)
    {text : String} (htext : document? (.ofFields fields) = .ok text) :
    ∃ v, read? text = some v ∧ ∀ name, v.field? name = (fields.lookup name).map sortKeys := by
  have hjson := isJson_ofFields hnames h
  refine ⟨_, read?_document hjson htext, fun name => ?_⟩
  rw [field?_sortKeys hjson, Value.field?_ofFields]

end Json

end Sequencer

import Sequencer.Config.Loading
import Sequencer.Proofs.Rounding
import Sequencer.Proofs.Stages
import Sequencer.Yaml.Document

/-!
# The values that YAML yields

`Value.Each` says of a value, however deep it is nested, what its scalars are and what the keys
of its mappings are together. Documents have proper values only: their floating point numbers are
doubles, and no mapping has a key twice (`Yaml.Document.proper_value`).
-/

namespace Sequencer

mutual

/-- Every scalar of the value is one of these, and so are the keys of each of its mappings. The
keys are taken together: `keys` is asked once for each mapping. -/
def Value.Each (scalar : Scalar → Prop) (keys : List Scalar → Prop) : Value → Prop
  | .scalar s => scalar s
  | .list items => itemsEach scalar keys items
  | .map entries => keys (entries.map Prod.fst) ∧ entriesEach scalar keys entries
  | .set members => ∀ s ∈ members, scalar s

/-- `Value.Each` for the items of a list. -/
def itemsEach (scalar : Scalar → Prop) (keys : List Scalar → Prop) : List Value → Prop
  | [] => True
  | item :: rest => item.Each scalar keys ∧ itemsEach scalar keys rest

/-- `Value.Each` for the values of the entries of a mapping. -/
def entriesEach (scalar : Scalar → Prop) (keys : List Scalar → Prop) :
    List (Scalar × Value) → Prop
  | [] => True
  | (_, value) :: rest => value.Each scalar keys ∧ entriesEach scalar keys rest

end

theorem itemsEach_iff {scalar : Scalar → Prop} {keys : List Scalar → Prop} {items : List Value} :
    itemsEach scalar keys items ↔ ∀ item ∈ items, item.Each scalar keys := by
  induction items with
  | nil => simp [itemsEach]
  | cons item rest ih => simp [itemsEach, ih]

theorem entriesEach_iff {scalar : Scalar → Prop} {keys : List Scalar → Prop}
    {entries : Entries} :
    entriesEach scalar keys entries ↔ ∀ e ∈ entries, e.2.Each scalar keys := by
  induction entries with
  | nil => simp [entriesEach]
  | cons e rest ih => simp [entriesEach, ih]

/-- The floating point numbers of the value are doubles, and no mapping has a key twice. -/
def Value.Proper : Value → Prop :=
  Value.Each (fun s => ∀ x, s = .float x → x.IsDouble) List.Nodup

/-- The keys of all mappings of the value are texts. -/
def Value.TextKeys : Value → Prop :=
  Value.Each (fun _ => True) fun keys => ∀ key ∈ keys, ∃ name, key = .text name

mutual

/-- Whether `Value.Each` holds can be computed. -/
def Value.decideEach (scalar : Scalar → Prop) (keys : List Scalar → Prop) [DecidablePred scalar]
    [DecidablePred keys] : (value : Value) → Decidable (value.Each scalar keys)
  | .scalar s => inferInstanceAs (Decidable (scalar s))
  | .list items => decideItemsEach scalar keys items
  | .map entries =>
    haveI := decideEntriesEach scalar keys entries
    inferInstanceAs (Decidable (_ ∧ _))
  | .set members => inferInstanceAs (Decidable (∀ s ∈ members, scalar s))

/-- `Value.decideEach` for the items of a list. -/
def decideItemsEach (scalar : Scalar → Prop) (keys : List Scalar → Prop) [DecidablePred scalar]
    [DecidablePred keys] : (items : List Value) → Decidable (itemsEach scalar keys items)
  | [] => isTrue trivial
  | item :: rest =>
    haveI := item.decideEach scalar keys
    haveI := decideItemsEach scalar keys rest
    inferInstanceAs (Decidable (_ ∧ _))

/-- `Value.decideEach` for the values of the entries of a mapping. -/
def decideEntriesEach (scalar : Scalar → Prop) (keys : List Scalar → Prop)
    [DecidablePred scalar] [DecidablePred keys] :
    (entries : List (Scalar × Value)) → Decidable (entriesEach scalar keys entries)
  | [] => isTrue trivial
  | (_, value) :: rest =>
    haveI := value.decideEach scalar keys
    haveI := decideEntriesEach scalar keys rest
    inferInstanceAs (Decidable (_ ∧ _))

end

/-- Whether a key is a text. -/
instance (key : Scalar) : Decidable (∃ name, key = .text name) :=
  match key with
  | .text name => isTrue ⟨name, rfl⟩
  | .null | .bool _ | .int _ | .float _ | .date _ | .moment _ | .bytes _ => isFalse nofun

instance (value : Value) : Decidable value.TextKeys :=
  Value.decideEach (fun _ => True) (fun keys => ∀ key ∈ keys, ∃ name, key = .text name) value

theorem Value.proper_null : Value.null.Proper := by
  intro x h
  cases h

/-! ## Entries -/

theorem mem_of_lookup {α β : Type} [BEq α] [LawfulBEq α] {entries : List (α × β)} {key : α}
    {value : β} (h : entries.lookup key = some value) : (key, value) ∈ entries := by
  obtain ⟨front, back, hlist, -⟩ := List.lookup_eq_some_iff.mp h
  rw [hlist]
  simp

namespace Entries

@[simp] theorem get?_nil (key : Scalar) : get? key [] = none := rfl

@[simp] theorem get?_cons (key k : Scalar) (v : Value) (rest : Entries) :
    get? key ((k, v) :: rest) = if key = k then some v else get? key rest := by
  unfold get?
  rw [List.lookup_cons]
  by_cases h : key = k
  · rw [beq_iff_eq.mpr h, if_pos h]
  · rw [beq_eq_false_iff_ne.mpr h, if_neg h]

theorem mem_of_get? {key : Scalar} {value : Value} {entries : Entries}
    (h : get? key entries = some value) : (key, value) ∈ entries :=
  mem_of_lookup h

theorem get?_of_mem {key : Scalar} {value : Value} {entries : Entries}
    (hdistinct : (entries.map Prod.fst).Nodup) (h : (key, value) ∈ entries) :
    get? key entries = some value := by
  induction entries with
  | nil => cases h
  | cons e rest ih =>
    obtain ⟨k, v⟩ := e
    rw [List.map_cons, List.nodup_cons] at hdistinct
    rw [get?_cons]
    rcases List.mem_cons.mp h with heq | hmem
    · cases heq
      exact if_pos rfl
    · have hne : key ≠ k := by
        rintro rfl
        exact hdistinct.1 (List.mem_map.mpr ⟨_, hmem, rfl⟩)
      rw [if_neg hne]
      exact ih hdistinct.2 hmem

/-- Where no key comes twice the order of the entries makes no difference to a look-up. -/
theorem get?_perm {entries entries' : Entries} (hperm : entries.Perm entries')
    (hdistinct : (entries.map Prod.fst).Nodup) (key : Scalar) :
    entries.get? key = entries'.get? key := by
  have hdistinct' : (entries'.map Prod.fst).Nodup := (hperm.map Prod.fst).nodup_iff.mp hdistinct
  refine Option.ext fun value => ⟨fun h => ?_, fun h => ?_⟩
  · exact get?_of_mem hdistinct' (hperm.mem_iff.mp (mem_of_get? h))
  · exact get?_of_mem hdistinct (hperm.mem_iff.mpr (mem_of_get? h))

theorem get?_eq_none_iff {key : Scalar} {entries : Entries} :
    get? key entries = none ↔ key ∉ entries.map Prod.fst := by
  induction entries with
  | nil => simp
  | cons e rest ih =>
    rw [get?_cons, List.map_cons, List.mem_cons, not_or]
    by_cases hk : key = e.1
    · simp [hk]
    · simp [hk, ih]

theorem hasKey_iff {key : Scalar} {entries : Entries} :
    hasKey key entries = true ↔ key ∈ entries.map Prod.fst := by
  rw [← not_iff_not, ← get?_eq_none_iff]
  unfold hasKey
  cases get? key entries <;> simp

theorem mem_keys_put {key k : Scalar} {value : Value} {entries : Entries} :
    k ∈ (put key value entries).map Prod.fst ↔ k = key ∨ k ∈ entries.map Prod.fst := by
  induction entries with
  | nil => simp [put]
  | cons e rest ih =>
    obtain ⟨k', v⟩ := e
    unfold put
    split
    · rename_i h
      simp [h]
    · rw [List.map_cons, List.mem_cons, ih, List.map_cons, List.mem_cons]
      exact or_left_comm

theorem nodup_keys_put {key : Scalar} {value : Value} {entries : Entries}
    (h : (entries.map Prod.fst).Nodup) : ((put key value entries).map Prod.fst).Nodup := by
  induction entries with
  | nil => simp [put]
  | cons e rest ih =>
    obtain ⟨k', v⟩ := e
    rw [List.map_cons, List.nodup_cons] at h
    unfold put
    split
    · rw [List.map_cons, List.nodup_cons]
      exact h
    · rename_i hne
      rw [List.map_cons, List.nodup_cons, mem_keys_put]
      exact ⟨fun hmem => hmem.elim hne h.1, ih h.2⟩

theorem mem_put {key : Scalar} {value : Value} {entries : Entries} {e : Scalar × Value}
    (h : e ∈ put key value entries) : e.2 = value ∨ e ∈ entries := by
  induction entries with
  | nil =>
    rw [put, List.mem_singleton] at h
    exact .inl (by rw [h])
  | cons e' rest ih =>
    obtain ⟨k', v⟩ := e'
    unfold put at h
    split at h
    · rcases List.mem_cons.mp h with rfl | h
      · exact .inl rfl
      · exact .inr (List.mem_cons_of_mem _ h)
    · rcases List.mem_cons.mp h with rfl | h
      · exact .inr List.mem_cons_self
      · exact (ih h).imp_right (List.mem_cons_of_mem _)

theorem nodup_keys_ofPairs (pairs : List (Scalar × Value)) :
    ((ofPairs pairs).map Prod.fst).Nodup := by
  unfold ofPairs
  refine List.foldlRecOn pairs _ (motive := fun entries : Entries => (entries.map Prod.fst).Nodup)
    List.nodup_nil ?_
  intro entries h e _
  exact nodup_keys_put h

theorem mem_ofPairs {pairs : List (Scalar × Value)} {e : Scalar × Value}
    (h : e ∈ ofPairs pairs) : ∃ e' ∈ pairs, e'.2 = e.2 := by
  unfold ofPairs at h
  revert e
  refine List.foldlRecOn pairs _
    (motive := fun entries => ∀ {e : Scalar × Value}, e ∈ entries → ∃ e' ∈ pairs, e'.2 = e.2)
    ?_ ?_
  · intro e h
    exact absurd h List.not_mem_nil
  · intro entries ih e' he' e h
    rcases mem_put h with h | h
    · exact ⟨e', he', h.symm⟩
    · exact ih h

end Entries

/-! ## Parts of values -/

theorem Value.Each.get? {scalar : Scalar → Prop} {keys : List Scalar → Prop} {entries : Entries}
    {key : Scalar} {value : Value} (h : (Value.map entries).Each scalar keys)
    (hget : Entries.get? key entries = some value) : value.Each scalar keys :=
  entriesEach_iff.mp h.2 _ (Entries.mem_of_get? hget)

theorem Value.Each.field? {scalar : Scalar → Prop} {keys : List Scalar → Prop} {value inner : Value}
    {name : String} (h : value.Each scalar keys) (hfield : value.field? name = some inner) :
    inner.Each scalar keys := by
  unfold Value.field? at hfield
  split at hfield
  · exact h.get? hfield
  · cases hfield

theorem Value.at?_of_field? {value : Value} {inner : Entries} {name key : String}
    (h : value.field? name = some (.map inner)) :
    value.at? [.text name, .text key] = Entries.get? (.text key) inner := by
  unfold Value.field? at h
  split at h
  · unfold Value.at?
    simp only [h, Option.bind_some]
    unfold Value.at?
    cases hget : Entries.get? (.text key) inner with
    | none => simp [hget]
    | some v => simp [hget, Value.at?]
  · cases h

/-! ## Reading -/

namespace Yaml

theorem isDouble_of_readDecimal {text : List Char} {x : Binary64}
    (h : readDecimal text = .ok x) : x.IsDouble := by
  unfold readDecimal at h
  split at h
  · cases h
    exact Binary64.isDouble_of_read? ‹_›
  · cases h

theorem isDouble_sixtiesDouble (parts : List Binary64) : (sixtiesDouble parts).IsDouble := by
  unfold sixtiesDouble
  refine List.foldlRecOn parts.reverse _ (motive := fun acc : Binary64 × Nat => acc.1.IsDouble)
    (Binary64.isDouble_zero false) ?_
  intro acc h part _
  exact Binary64.isDouble_add _ _

theorem isDouble_of_readUnsignedDouble {text : List Char} {x : Binary64}
    (h : readUnsignedDouble text = .ok x) : x.IsDouble := by
  unfold readUnsignedDouble at h
  split at h
  · cases h
    simp
  · split at h
    · cases h
      simp
    · split at h
      · obtain ⟨parts, -, rfl⟩ := Stage.map_eq_ok_iff.mp h
        exact isDouble_sixtiesDouble parts
      · exact isDouble_of_readDecimal h

theorem isDouble_of_readDouble {text : String} {x : Binary64} (h : readDouble text = .ok x) :
    x.IsDouble := by
  unfold readDouble at h
  dsimp only at h
  split at h
  · cases h
  · obtain ⟨y, hread, rfl⟩ := Stage.map_eq_ok_iff.mp h
    have hy := isDouble_of_readUnsignedDouble hread
    split
    · exact hy.neg
    · exact hy

theorem not_float_of_timeValue {t : TimeText} {s : Scalar} (h : t.value = .ok s)
    (x : Binary64) : s ≠ .float x := by
  rintro rfl
  unfold TimeText.value at h
  split at h
  · cases hdate : dateOf (Text.naturalValue t.year) (Text.naturalValue t.month)
      (Text.naturalValue t.day) with
    | error fault => rw [hdate] at h; cases h
    | ok date => rw [hdate] at h; cases h
  · simp only [bind, Except.bind, pure, Except.pure] at h
    repeat' split at h
    all_goals cases h

/-- The text of a scalar stands for a double under the tag of floating point numbers, and under
no other tag for such a number. -/
theorem isDouble_of_scalarValue? {tag : Tag} {text : String} {x : Binary64}
    (h : scalarValue? tag text = some (.ok (.float x))) : x.IsDouble := by
  unfold scalarValue? at h
  split at h
  · cases h
  · obtain ⟨_, -, ⟨⟩⟩ := Stage.map_eq_ok_iff.mp (Option.some.inj h)
  · obtain ⟨_, -, ⟨⟩⟩ := Stage.map_eq_ok_iff.mp (Option.some.inj h)
  · obtain ⟨_, hread, ⟨⟩⟩ := Stage.map_eq_ok_iff.mp (Option.some.inj h)
    exact isDouble_of_readDouble hread
  · obtain ⟨_, -, ⟨⟩⟩ := Stage.map_eq_ok_iff.mp (Option.some.inj h)
  · have hread := Option.some.inj h
    unfold readTime at hread
    split at hread
    · cases hread
    · exact absurd rfl (not_float_of_timeValue (Stage.mapError_eq_ok_iff.mp hread) x)
  · cases h
  · cases h

theorem isDouble_keyOf {nodes : Array Node} {id : NodeId} {x : Binary64}
    (h : keyOf nodes id = .float x) : x.IsDouble := by
  unfold keyOf scalarOf at h
  split at h
  · rename_i s hs
    split at hs
    · cases hs
    · rename_i text _
      cases hvalue : scalarValue? (nodeAt nodes id).tag text with
      | none => rw [hvalue] at hs; cases hs
      | some result =>
        rw [hvalue] at hs
        subst h
        exact isDouble_of_scalarValue? (hvalue.trans (congrArg some hs))
  · cases h

theorem proper_getD {values : Array Value} (h : ∀ v ∈ values, v.Proper) (id : NodeId) :
    (values[id]?.getD .null).Proper := by
  cases hget : values[id]? with
  | none => exact Value.proper_null
  | some v => exact h v (Array.mem_of_getElem? hget)

theorem proper_list {items : List Value} (h : ∀ item ∈ items, item.Proper) :
    (Value.list items).Proper :=
  itemsEach_iff.mpr h

theorem proper_list_map {α : Type} {xs : List α} {f : α → Value} (h : ∀ x ∈ xs, (f x).Proper) :
    (Value.list (xs.map f)).Proper := by
  refine proper_list fun item hitem => ?_
  obtain ⟨x, hx, rfl⟩ := List.mem_map.mp hitem
  exact h x hx

theorem proper_valueOf {nodes : Array Node} {values : Array Value}
    (h : ∀ v ∈ values, v.Proper) (id : NodeId) : (valueOf nodes values id).Proper := by
  have hpair : ∀ key value : NodeId,
      (Value.list [values[key]?.getD .null, values[value]?.getD .null]).Proper := fun key value =>
    proper_list (by simp [proper_getD h])
  unfold valueOf
  dsimp only
  split
  · exact proper_list_map fun _ _ => proper_getD h _
  · refine ⟨Entries.nodup_keys_ofPairs _, entriesEach_iff.mpr fun e he => ?_⟩
    obtain ⟨e', hmem, heq⟩ := Entries.mem_ofPairs he
    obtain ⟨_, -, rfl⟩ := List.mem_map.mp hmem
    rw [← heq]
    exact proper_getD h _
  · intro s hs x hx
    obtain ⟨_, -, rfl⟩ := List.mem_map.mp (List.mem_eraseDups.mp hs)
    exact isDouble_keyOf hx
  · exact proper_list_map fun _ _ => hpair _ _
  · exact proper_list_map fun _ _ => hpair _ _
  · exact proper_list_map fun _ _ => hpair _ _
  · exact ⟨List.nodup_nil, trivial⟩
  · intro s hs
    cases hs
  · exact fun x hx => isDouble_keyOf hx

theorem proper_fillValues {nodes : Array Node} {values : Array Value}
    (h : ∀ v ∈ values, v.Proper) : ∀ v ∈ fillValues nodes values, v.Proper := by
  unfold fillValues
  induction List.range nodes.size with
  | nil => exact h
  | cons id rest ih =>
    intro v hv
    rw [List.foldr_cons] at hv
    rcases Array.mem_or_eq_of_mem_setIfInBounds hv with hv | rfl
    · exact ih v hv
    · exact proper_valueOf ih id

theorem proper_valuesAfter (nodes : Array Node) (passes : Nat) :
    ∀ v ∈ valuesAfter nodes passes, v.Proper := by
  induction passes with
  | zero =>
    intro v hv
    rw [(Array.mem_replicate.mp hv).2]
    exact Value.proper_null
  | succ passes ih => exact proper_fillValues ih

/-- The value of a document is proper. -/
theorem Document.proper_value (d : Document) : d.value.Proper :=
  proper_getD (proper_valuesAfter d.nodes _) d.root

end Yaml

end Sequencer

import Sequencer.Proofs.JsonWords
import Sequencer.Proofs.Values

/-!
# What is written as JSON is read back

The text of a JSON value without floating point numbers reads back as the value itself, entries in
their order, in whatever layout it is written, as long as this puts nothing but white space between
the parts (`readValue_write`). A record is such a text (`read?_record`), and so is a document, whose
entries are sorted (`read?_document`). The line of such a value holds no control character
(`noControls_line`). These are inductions over the value. Reading has fuel enough with twice the
length of the text.
-/

namespace Sequencer

open Text

mutual

/-- The value is one of JSON without floating point numbers: its scalars are null, truth values,
integers and texts, and the keys of its mappings are different texts. -/
def Value.IsJson : Value → Prop
  | .null | .bool _ | .int _ | .text _ => True
  | .list items => itemsJson items
  | .map entries => (entries.map Prod.fst).Nodup ∧ entriesJson entries
  | _ => False

/-- `Value.IsJson` for the items of a list. -/
def itemsJson : List Value → Prop
  | [] => True
  | item :: rest => item.IsJson ∧ itemsJson rest

/-- `Value.IsJson` for the entries of a mapping, whose keys are texts. -/
def entriesJson : List (Scalar × Value) → Prop
  | [] => True
  | (key, value) :: rest => (∃ name, key = .text name) ∧ value.IsJson ∧ entriesJson rest

end

namespace Json

/-! ## Values -/

theorem skipBlanks_cons {c : Char} (h : c ∉ [' ', '\n', '\r', '\t']) (rest : List Char) :
    skipBlanks (c :: rest) = c :: rest := by
  refine List.dropWhile_cons_of_neg ?_
  simpa [and_assoc] using h

/-- Nothing but the white space of JSON. -/
def Blank (text : List Char) : Prop := ∀ c ∈ text, c ∈ [' ', '\n', '\r', '\t']

theorem blank_nil : Blank [] := nofun

theorem blank_space : Blank [' '] := List.forall_mem_singleton.mpr (by decide)

/-- The layout puts nothing but white space between the parts. -/
structure Layout.IsBlank (layout : Layout) : Prop where
  around : ∀ level, Blank (layout.around level)
  after : ∀ level, Blank (layout.after level)

theorem Layout.isBlank_line : Layout.line.IsBlank :=
  ⟨fun _ => blank_nil, fun _ => blank_space⟩

theorem blank_newLine (level : Nat) : Blank (newLine level) := by
  refine List.forall_mem_cons.mpr ⟨by decide, fun c hc => ?_⟩
  rw [(List.mem_replicate.mp hc).2]
  decide

theorem Layout.isBlank_page : Layout.page.IsBlank := ⟨blank_newLine, blank_newLine⟩

theorem skipBlanks_append {blank : List Char} (h : Blank blank) (text : List Char) :
    skipBlanks (blank ++ text) = skipBlanks text := by
  refine List.dropWhile_append_of_pos fun c hc => ?_
  simpa [or_assoc] using h c hc

theorem noWord_append {blank text : List Char} (h : Blank blank) (htext : NoWord text) :
    NoWord (blank ++ text) := by
  cases blank with
  | nil => exact htext
  | cons c rest =>
    refine noWord_cons ?_
    have hc := h c List.mem_cons_self
    simp only [List.mem_cons, List.not_mem_nil, or_false] at hc
    rcases hc with rfl | rfl | rfl | rfl <;> rfl

section

variable {layout : Layout} {level : Nat}

/-- The text of a value starts with no white space, and with no closing bracket. -/
theorem exists_write_eq_cons (layout : Layout) (level : Nat) {v : Value} (h : v.IsJson) :
    ∃ c rest, write .controls layout level v = c :: rest ∧
      c ∉ [' ', '\n', '\r', '\t'] ∧ c ≠ ']' := by
  match v, h with
  | .null, _ => exact ⟨_, _, rfl, by decide⟩
  | .bool b, _ => cases b <;> exact ⟨_, _, rfl, by decide⟩
  | .int (.ofNat n), _ =>
    cases hn : natural n with
    | nil => exact absurd hn (natural_ne_nil n)
    | cons c digits =>
      have hc : c.isDigit = true :=
        isDigit_of_mem_natural (n := n) (by rw [hn]; exact List.mem_cons_self)
      refine ⟨c, digits, hn, fun hmem => ?_, ?_⟩
      · simp only [List.mem_cons, List.not_mem_nil, or_false] at hmem
        rcases hmem with rfl | rfl | rfl | rfl <;> cases hc
      · rintro rfl
        cases hc
  | .int (.negSucc n), _ => exact ⟨_, _, rfl, by decide⟩
  | .text s, _ => exact ⟨_, _, rfl, by decide⟩
  | .list [], _ | .list (_ :: _), _ => exact ⟨_, _, rfl, by decide⟩
  | .map [], _ | .map (_ :: _), _ => exact ⟨_, _, rfl, by decide⟩

/-- What follows white space is read as it is. -/
theorem skipBlanks_write (layout : Layout) (level : Nat) {blank : List Char}
    (hblank : Blank blank) {v : Value} (h : v.IsJson) (rest : List Char) :
    skipBlanks (blank ++ (write .controls layout level v ++ rest)) =
      write .controls layout level v ++ rest := by
  obtain ⟨c, tail, hwrite, hc, -⟩ := exists_write_eq_cons layout level h
  rw [skipBlanks_append hblank, hwrite, List.cons_append, skipBlanks_cons hc]

theorem readItems_append {blank : List Char} (h : Blank blank) (fuel : Nat) (text : List Char) :
    readItems fuel (blank ++ text) = readItems fuel text := by
  cases fuel with
  | zero => rfl
  | succ fuel => rw [readItems, readItems, skipBlanks_append h]

theorem readEntries_append {blank : List Char} (h : Blank blank) (fuel : Nat)
    (text : List Char) : readEntries fuel (blank ++ text) = readEntries fuel text := by
  cases fuel with
  | zero => rfl
  | succ fuel => rw [readEntries, readEntries, skipBlanks_append h]

/-- The items of a list, without the brackets. -/
def itemsText (layout : Layout) (level : Nat) (items : List Value) : List Char :=
  separated (',' :: layout.after level) (writeItems .controls layout level items)

theorem itemsText_cons_cons (item next : Value) (rest : List Value) :
    itemsText layout level (item :: next :: rest) = write .controls layout level item ++
      ',' :: (layout.after level ++ itemsText layout level (next :: rest)) := by
  simp [itemsText, writeItems, separated]

/-- The entries of a mapping, without the braces. -/
def entriesText (layout : Layout) (level : Nat) (entries : Entries) : List Char :=
  separated (',' :: layout.after level) (writeEntries .controls layout level entries)

/-- A text that starts with an entry. -/
def entryText (layout : Layout) (level : Nat) (name : String) (value : Value)
    (text : List Char) : List Char :=
  '"' :: (name.toList.flatMap (escape .controls) ++ '"' :: ':' :: ' ' ::
    (write .controls layout level value ++ text))

theorem length_entryText (layout : Layout) (level : Nat) (name : String) (value : Value)
    (text : List Char) :
    (write .controls layout level value).length + text.length + 4 ≤
      (entryText layout level name value text).length := by
  simp only [entryText, List.length_cons, List.length_append]
  omega

theorem entriesText_singleton (name : String) (value : Value) (rest : List Char) :
    entriesText layout level [(.text name, value)] ++ rest =
      entryText layout level name value rest := by
  simp [entriesText, entryText, writeEntries, separated, key, string]

theorem entriesText_cons_cons (name : String) (value : Value) (next : Scalar × Value)
    (entries : Entries) (rest : List Char) :
    entriesText layout level ((.text name, value) :: next :: entries) ++ rest =
      entryText layout level name value
        (',' :: (layout.after level ++ (entriesText layout level (next :: entries) ++ rest))) := by
  simp [entriesText, entryText, writeEntries, separated, key, string]

/-- Reading an item goes on with what follows it. -/
theorem readItems_write {item : Value} {fuel : Nat} {text : List Char} (hjson : item.IsJson)
    (hread : readValue fuel (write .controls layout level item ++ text) = some (item, text)) :
    readItems (fuel + 1) (write .controls layout level item ++ text) =
      match skipBlanks text with
      | ',' :: r => (readItems fuel r).map fun (items, r) => (item :: items, r)
      | ']' :: r => some ([item], r)
      | _ => none := by
  have hskip := skipBlanks_write layout level blank_nil hjson text
  rw [List.nil_append] at hskip
  rw [readItems, hskip, hread]
  rfl

/-- Reading an entry goes on with what follows its value. -/
theorem readEntries_entryText {name : String} {value : Value} {fuel : Nat} {text : List Char}
    (hjson : value.IsJson)
    (hread : readValue fuel (write .controls layout level value ++ text) = some (value, text)) :
    readEntries (fuel + 1) (entryText layout level name value text) =
      match skipBlanks text with
      | ',' :: r => (readEntries fuel r).map fun (entries, r) => ((.text name, value) :: entries, r)
      | '\x7d' :: r => some ([(.text name, value)], r)
      | _ => none := by
  have hskip := skipBlanks_write layout level blank_space hjson text
  rw [entryText, readEntries, skipBlanks_cons (by decide)]
  show (readChars none (name.toList.flatMap (escape .controls) ++ '"' :: ':' :: ' ' ::
    (write .controls layout level value ++ text))).bind _ = _
  rw [readChars_string, Option.bind_some]
  dsimp only
  rw [skipBlanks_cons (by decide)]
  show (readValue fuel (skipBlanks ([' '] ++ (write .controls layout level value ++ text)))).bind
    _ = _
  rw [hskip, hread, String.ofList_toList]
  rfl

end

theorem put_of_not_mem {key : Scalar} {value : Value} {entries : Entries}
    (h : key ∉ entries.map Prod.fst) :
    Entries.put key value entries = entries ++ [(key, value)] := by
  induction entries with
  | nil => rfl
  | cons e rest ih =>
    rw [List.map_cons, List.mem_cons, not_or] at h
    rw [Entries.put, if_neg (Ne.symm h.1), ih h.2]
    rfl

/-- Entries with different keys, set one after another, come to themselves. -/
theorem foldl_put_of_nodup {entries pairs : Entries}
    (h : ((entries ++ pairs).map Prod.fst).Nodup) :
    pairs.foldl (fun entries (key, value) => Entries.put key value entries) entries =
      entries ++ pairs := by
  induction pairs generalizing entries with
  | nil => simp
  | cons pair rest ih =>
    obtain ⟨key, value⟩ := pair
    have hnew : key ∉ entries.map Prod.fst := by
      simp only [List.map_append, List.map_cons, List.nodup_append, List.mem_cons] at h
      intro hmem
      exact h.2.2 key hmem key (.inl rfl) rfl
    rw [List.foldl_cons]
    dsimp only
    rw [put_of_not_mem hnew, ih (by simpa using h), List.append_assoc]
    rfl

theorem ofPairs_of_nodup {pairs : Entries} (h : (pairs.map Prod.fst).Nodup) :
    Entries.ofPairs pairs = pairs :=
  @foldl_put_of_nodup [] pairs h

section

variable {layout : Layout} {level : Nat}

theorem write_list (layout : Layout) (level : Nat) (item : Value) (items : List Value)
    (rest : List Char) :
    write .controls layout level (.list (item :: items)) ++ rest =
      '[' :: (layout.around (level + 1) ++ (itemsText layout (level + 1) (item :: items) ++
        (layout.around level ++ ']' :: rest))) := by
  simp [write, Layout.bracketed, itemsText, writeItems]

theorem write_map (layout : Layout) (level : Nat) (entry : Scalar × Value) (entries : Entries)
    (rest : List Char) :
    write .controls layout level (.map (entry :: entries)) ++ rest =
      '\x7b' :: (layout.around (level + 1) ++ (entriesText layout (level + 1) (entry :: entries) ++
        (layout.around level ++ '\x7d' :: rest))) := by
  simp [write, Layout.bracketed, entriesText, writeEntries]

theorem exists_itemsText_eq_cons (layout : Layout) (level : Nat) {item : Value}
    (items : List Value) (h : item.IsJson) :
    ∃ c rest, itemsText layout level (item :: items) = c :: rest ∧
      c ∉ [' ', '\n', '\r', '\t'] ∧ c ≠ ']' := by
  obtain ⟨c, rest, hwrite, hc⟩ := exists_write_eq_cons layout level h
  cases items with
  | nil => exact ⟨c, rest, hwrite, hc⟩
  | cons next items =>
    rw [itemsText_cons_cons, hwrite]
    exact ⟨c, _, rfl, hc⟩

theorem readValue_items {item : Value} {items : List Value} {fuel : Nat}
    {blank tail rest : List Char} (hblank : Blank blank) (h : itemsJson (item :: items))
    (hread : readItems fuel (itemsText layout level (item :: items) ++ tail) =
      some (item :: items, rest)) :
    readValue (fuel + 1) ('[' :: (blank ++ (itemsText layout level (item :: items) ++ tail))) =
      some (.list (item :: items), rest) := by
  obtain ⟨c, text, htext, hc, hclose⟩ :=
    exists_itemsText_eq_cons layout level items h.1
  rw [readValue, if_neg (by decide), if_pos rfl, skipBlanks_append hblank]
  rw [htext, List.cons_append] at hread ⊢
  rw [skipBlanks_cons hc]
  split
  · rename_i heq
    exact absurd (List.cons.inj heq).1 hclose
  · rw [hread]
    rfl

theorem readValue_entries {entry : Scalar × Value} {entries : Entries} {fuel : Nat}
    {blank tail rest : List Char} (hblank : Blank blank)
    (h : (Value.map (entry :: entries)).IsJson)
    (hread : readEntries fuel (entriesText layout level (entry :: entries) ++ tail) =
      some (entry :: entries, rest)) :
    readValue (fuel + 1)
        ('\x7b' :: (blank ++ (entriesText layout level (entry :: entries) ++ tail))) =
      some (.map (entry :: entries), rest) := by
  obtain ⟨text, htext⟩ : ∃ text, entriesText layout level (entry :: entries) = '"' :: text := by
    obtain ⟨key, value⟩ := entry
    obtain ⟨name, rfl⟩ := h.2.1
    cases entries <;> exact ⟨_, rfl⟩
  rw [readValue, if_neg (by decide), if_neg (by decide), if_pos rfl, skipBlanks_append hblank]
  rw [htext, List.cons_append] at hread ⊢
  rw [skipBlanks_cons (by decide)]
  show (readEntries fuel ('"' :: (text ++ tail))).map _ = _
  rw [hread, Option.map_some]
  dsimp only
  rw [ofPairs_of_nodup h.1]

/-- What follows the last part of a list or a mapping stands for itself. -/
theorem noWord_close {layout : Layout} (hlayout : layout.IsBlank) (level : Nat) (c : Char)
    (hc : isWordChar c = false) (rest : List Char) :
    NoWord (layout.around level ++ c :: rest) :=
  noWord_append (hlayout.around level) (noWord_cons hc)

end

section

variable {layout : Layout} (hlayout : layout.IsBlank)

include hlayout

mutual

theorem readValue_write : (v : Value) → v.IsJson → ∀ (level fuel : Nat) (rest : List Char),
    NoWord rest → 2 * (write .controls layout level v).length ≤ fuel →
    readValue fuel (write .controls layout level v ++ rest) = some (v, rest)
  | .null, _, _, 0, _, _, hfuel => by simp [write, scalar] at hfuel
  | .null, _, _, fuel + 1, rest, hrest, _ => by
    show readValue (fuel + 1) ("null".toList ++ rest) = _
    exact readValue_word (by decide) (by decide) rfl hrest fuel
  | .bool b, _, _, 0, _, _, hfuel => by cases b <;> simp [write, scalar] at hfuel
  | .bool b, _, _, fuel + 1, rest, hrest, _ => by
    cases b with
    | false =>
      show readValue (fuel + 1) ("false".toList ++ rest) = _
      exact readValue_word (by decide) (by decide) rfl hrest fuel
    | true =>
      show readValue (fuel + 1) ("true".toList ++ rest) = _
      exact readValue_word (by decide) (by decide) rfl hrest fuel
  | .int n, _, _, 0, _, _, hfuel => by
    have := List.length_pos_iff.mpr (integer_ne_nil n)
    simp only [write, scalar] at hfuel
    omega
  | .int n, _, _, fuel + 1, rest, hrest, _ =>
    readValue_word (integer_ne_nil n)
      (List.all_eq_true.mpr fun _ => isWordChar_of_mem_integer) (readWord?_integer n) hrest fuel
  | .text s, _, _, 0, _, _, hfuel => by simp [write, scalar, string] at hfuel
  | .text s, _, _, fuel + 1, rest, _, _ => by
    show readValue (fuel + 1) (string .controls s.toList ++ rest) = _
    rw [string, List.append_assoc, List.cons_append, readValue, if_pos rfl, List.singleton_append,
      readChars_string]
    simp
  | .list [], _, _, 0, _, _, hfuel => by simp [write, Layout.bracketed, writeItems] at hfuel
  | .list [], _, _, fuel + 1, rest, _, _ => rfl
  | .list (item :: items), h, level, 0, _, _, hfuel => by
    have hlength := congrArg List.length (write_list layout level item items [])
    simp only [List.append_nil, List.length_cons] at hlength
    omega
  | .list (item :: items), h, level, fuel + 1, rest, _, hfuel => by
    have hlength := congrArg List.length (write_list layout level item items [])
    simp only [List.append_nil, List.length_cons, List.length_append] at hlength
    rw [write_list]
    exact readValue_items (hlayout.around _) h
      (readItems_text (item :: items) h (List.cons_ne_nil _ _) (level + 1) level fuel rest
        (by omega))
  | .map [], _, _, 0, _, _, hfuel => by simp [write, Layout.bracketed, writeEntries] at hfuel
  | .map [], _, _, fuel + 1, rest, _, _ => rfl
  | .map (entry :: entries), h, level, 0, _, _, hfuel => by
    have hlength := congrArg List.length (write_map layout level entry entries [])
    simp only [List.append_nil, List.length_cons] at hlength
    omega
  | .map (entry :: entries), h, level, fuel + 1, rest, _, hfuel => by
    have hlength := congrArg List.length (write_map layout level entry entries [])
    simp only [List.append_nil, List.length_cons, List.length_append] at hlength
    rw [write_map]
    exact readValue_entries (hlayout.around _) h
      (readEntries_text (entry :: entries) h.2 (List.cons_ne_nil _ _) (level + 1) level fuel rest
        (by omega))

theorem readItems_text : (items : List Value) → itemsJson items → items ≠ [] →
    ∀ (level outer fuel : Nat) (rest : List Char),
    2 * (itemsText layout level items).length + 1 ≤ fuel →
    readItems fuel (itemsText layout level items ++ (layout.around outer ++ ']' :: rest)) =
      some (items, rest)
  | [], _, h, _, _, _, _, _ => absurd rfl h
  | [item], hjson, _, level, outer, fuel + 1, rest, hfuel => by
    have hlength : (itemsText layout level [item]).length =
        (write .controls layout level item).length := rfl
    have hread := readValue_write item hjson.1 level fuel _
      (noWord_close hlayout outer ']' rfl rest) (by omega)
    rw [show itemsText layout level [item] = write .controls layout level item from rfl,
      readItems_write hjson.1 hread, skipBlanks_append (hlayout.around outer),
      skipBlanks_cons (by decide)]
    rfl
  | item :: next :: items, hjson, _, level, outer, fuel + 1, rest, hfuel => by
    rw [itemsText_cons_cons] at hfuel ⊢
    simp only [List.length_append, List.length_cons] at hfuel
    have hitems := readItems_text (next :: items) hjson.2 (List.cons_ne_nil _ _) level outer fuel
      rest (by omega)
    rw [List.append_assoc, List.cons_append, List.append_assoc,
      readItems_write hjson.1
        (readValue_write item hjson.1 level fuel _ (noWord_cons rfl) (by omega)),
      skipBlanks_cons (by decide)]
    show (readItems fuel (layout.after level ++ _)).map _ = _
    rw [readItems_append (hlayout.after level), hitems]
    rfl

theorem readEntries_text : (entries : Entries) → entriesJson entries → entries ≠ [] →
    ∀ (level outer fuel : Nat) (rest : List Char),
    2 * (entriesText layout level entries).length + 1 ≤ fuel →
    readEntries fuel (entriesText layout level entries ++ (layout.around outer ++ '\x7d' :: rest)) =
      some (entries, rest)
  | [], _, h, _, _, _, _, _ => absurd rfl h
  | [(key, value)], hjson, _, level, outer, fuel + 1, rest, hfuel => by
    obtain ⟨⟨name, rfl⟩, hvalue, -⟩ := hjson
    have hlength := length_entryText layout level name value []
    rw [← entriesText_singleton, List.append_nil] at hlength
    have hread := readValue_write value hvalue level fuel _
      (noWord_close hlayout outer '\x7d' rfl rest) (by omega)
    rw [entriesText_singleton, readEntries_entryText hvalue hread,
      skipBlanks_append (hlayout.around outer), skipBlanks_cons (by decide)]
    rfl
  | (key, value) :: next :: entries, hjson, _, level, outer, fuel + 1, rest, hfuel => by
    obtain ⟨⟨name, rfl⟩, hvalue, hentries⟩ := hjson
    have hlength := length_entryText layout level name value
      (',' :: (layout.after level ++ (entriesText layout level (next :: entries) ++ [])))
    rw [← entriesText_cons_cons, List.append_nil, List.append_nil, List.length_cons,
      List.length_append] at hlength
    have hrest := readEntries_text (next :: entries) hentries (List.cons_ne_nil _ _) level outer
      fuel rest (by omega)
    rw [entriesText_cons_cons, readEntries_entryText hvalue
        (readValue_write value hvalue level fuel _ (noWord_cons rfl) (by omega)),
      skipBlanks_cons (by decide)]
    show (readEntries fuel (layout.after level ++ _)).map _ = _
    rw [readEntries_append (hlayout.after level), hrest]
    rfl

end

/-- A text that is written in a layout, with white space behind it, is read back. -/
theorem read?_write {v : Value} (h : v.IsJson) (level : Nat) {blank : List Char}
    (hblank : Blank blank) :
    read? (String.ofList (write .controls layout level v ++ blank)) = some v := by
  obtain ⟨c, tail, hwrite, hc, -⟩ := exists_write_eq_cons layout level h
  have hend : skipBlanks blank = [] := by
    rw [← List.append_nil blank, skipBlanks_append hblank]
    rfl
  have hword : NoWord blank := by
    rw [← List.append_nil blank]
    exact noWord_append hblank noWord_nil
  have hskip := skipBlanks_write layout level blank_nil h blank
  rw [List.nil_append] at hskip
  have hread := readValue_write hlayout v h level
    (2 * (write .controls layout level v ++ blank).length + 2) blank hword
    (by rw [List.length_append]; omega)
  unfold read?
  rw [String.toList_ofList, String.length_ofList, hskip, hread]
  dsimp only
  rw [if_pos hend]

end

/-- A value without floating point numbers is read back from its line. -/
theorem read?_line {v : Value} (h : v.IsJson) :
    read? (String.ofList (line .controls v)) = some v := by
  have hread := read?_write Layout.isBlank_line h 0 blank_nil
  rwa [List.append_nil] at hread

/-! ## Whole texts -/

theorem checked_eq_ok_iff {value : Value} {text : List Char} {whole : String} :
    checked value text = .ok whole ↔ fault? value = none ∧ whole = String.ofList text := by
  unfold checked
  cases fault? value with
  | none => simp [eq_comm]
  | some fault => simp

mutual

/-- A JSON value has a text unless an integer in it is too long. -/
theorem fault?_of_isJson : (v : Value) → v.IsJson →
    fault? v = if v.hasLong then some .tooLong else none
  | .null, _ | .bool _, _ | .text _, _ => rfl
  | .int _, _ => rfl
  | .list items, h => itemsFault?_of_isJson items h
  | .map entries, h => entriesFault?_of_isJson entries h.2

theorem itemsFault?_of_isJson : (items : List Value) → itemsJson items →
    itemsFault? items = if itemsLong items then some .tooLong else none
  | [], _ => rfl
  | item :: rest, h => by
    rw [itemsFault?, fault?_of_isJson item h.1, itemsFault?_of_isJson rest h.2, itemsLong]
    cases item.hasLong <;> rfl

theorem entriesFault?_of_isJson : (entries : Entries) → entriesJson entries →
    entriesFault? entries = if entriesLong entries then some .tooLong else none
  | [], _ => rfl
  | (key, value) :: rest, h => by
    obtain ⟨⟨name, rfl⟩, hvalue, hrest⟩ := h
    rw [entriesFault?, fault?_of_isJson value hvalue, entriesFault?_of_isJson rest hrest,
      entriesLong]
    cases value.hasLong <;> rfl

end

/-- The text of a JSON value as a record reads back as the value. -/
theorem read?_record {v : Value} (h : v.IsJson) {text : String} (htext : record? v = .ok text) :
    read? text = some v := by
  rw [(checked_eq_ok_iff.mp htext).2]
  exact read?_line h

/-! ## Controls -/

theorem noControls_bracketed {opening closing : Char} (hopening : 0x20 ≤ opening.toNat)
    (hclosing : 0x20 ≤ closing.toNat) (level : Nat) {parts : List (List Char)}
    (h : ∀ part ∈ parts, NoControls part) :
    NoControls (Layout.line.bracketed level opening closing parts) := by
  have hinside : NoControls (separated [',', ' '] parts) := noControls_separated (by simp) h
  unfold Layout.bracketed
  split <;> simp [Layout.line, hinside, hopening, hclosing]

mutual

theorem noControls_write : (v : Value) → v.IsJson → ∀ level,
    NoControls (write .controls .line level v)
  | .null, _, _ => by
    show NoControls "null".toList
    decide
  | .bool b, _, _ => by
    show NoControls (if b then "true" else "false").toList
    cases b <;> decide
  | .int n, _, _ => noControls_integer n
  | .text s, _, _ => noControls_string s.toList
  | .list items, h, level =>
    noControls_bracketed (by decide) (by decide) level (noControls_writeItems items h (level + 1))
  | .map entries, h, level =>
    noControls_bracketed (by decide) (by decide) level
      (noControls_writeEntries entries h.2 (level + 1))

theorem noControls_writeItems : (items : List Value) → itemsJson items → ∀ level,
    ∀ text ∈ writeItems .controls .line level items, NoControls text
  | [], _, _ => nofun
  | item :: rest, h, level => List.forall_mem_cons.mpr
    ⟨noControls_write item h.1 level, noControls_writeItems rest h.2 level⟩

theorem noControls_writeEntries : (entries : Entries) → entriesJson entries → ∀ level,
    ∀ text ∈ writeEntries .controls .line level entries, NoControls text
  | [], _, _ => nofun
  | (key, value) :: rest, h, level => by
    obtain ⟨⟨name, rfl⟩, hvalue, hrest⟩ := h
    have hwrite := noControls_write value hvalue level
    have hkey := noControls_string name.toList
    refine List.forall_mem_cons.mpr ⟨?_, noControls_writeEntries rest hrest level⟩
    simp [Json.key, hkey, hwrite]

end

/-- The line of a value without floating point numbers holds no control. -/
theorem noControls_line {v : Value} (h : v.IsJson) : NoControls (line .controls v) :=
  noControls_write v h 0

end Json

end Sequencer

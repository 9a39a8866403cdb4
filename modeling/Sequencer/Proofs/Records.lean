import Sequencer.Log.Logger
import Sequencer.Proofs.JsonFields

/-!
# Lines of records

A record whose written fields are JSON values without floating point numbers is one line that reads
back as its entries (`Record.read?_line`), unless one of them holds an integer that is too long to
be written (`Record.exists_line?_eq`). What else is set on a record is not written: neither further
fields nor fields that go by the name of an entry change its line (`line_reads_back`).
-/

namespace Sequencer

open Text

namespace Log

/-! ## Lines -/

/-- The fields of the record that are written are JSON values without floating point numbers. -/
def Record.HasJson (r : Record) : Prop := ∀ name ∈ writtenFields, (r.field name).IsJson

/-- What holds of null and of all that is set on a record holds of each of its fields. -/
theorem Record.forall_field {p : Value → Prop} (hnull : p .null) {r : Record}
    (h : ∀ field ∈ r.fields, p field.2) (name : String) : p (r.field name) := by
  unfold Record.field
  cases hvalue : r.fields.lookup name with
  | none => exact hnull
  | some value => exact h (name, value) (mem_of_lookup hvalue)

theorem Record.hasJson_of_fields {r : Record} (h : ∀ field ∈ r.fields, field.2.IsJson) :
    r.HasJson :=
  fun name _ => Record.forall_field trivial h name

theorem Record.entries_mk (level : Level) (message : String) (fields : List (String × Value))
    (exception : Option String) (now : Moment) :
    Record.entries { level, message, fields, exception } now =
      [("timestamp", .text now.isoMilliseconds)] ++
        writtenFields.map (fun name => (name, (fields.lookup name).getD .null)) ++
        [("message", .text message)] ++
        exception.toList.map fun text => ("exception", .text text) :=
  rfl

theorem not_entry_of_mem_writtenFields :
    ∀ name ∈ writtenFields, name ∉ ["timestamp", "message", "exception"] := by
  decide +kernel

theorem Record.nodup_names_entries (r : Record) (now : Moment) :
    ((r.entries now).map Prod.fst).Nodup := by
  unfold Record.entries
  cases r.exception with
  | none =>
    show ("timestamp" :: writtenFields ++ ["message"]).Nodup
    decide
  | some text =>
    show ("timestamp" :: writtenFields ++ ["message", "exception"]).Nodup
    decide

/-- What holds of texts holds of all entries iff it holds of the fields that are written. -/
theorem Record.forall_entries_iff {p : Value → Prop} (htext : ∀ text : String, p (.text text))
    (r : Record) (now : Moment) :
    (∀ field ∈ r.entries now, p field.2) ↔ ∀ name ∈ writtenFields, p (r.field name) := by
  constructor
  · intro h name hname
    exact h (name, r.field name) (by simp [entries, hname])
  · intro h field hfield
    simp only [entries, List.mem_append, List.mem_singleton, List.mem_map] at hfield
    rcases hfield with ((rfl | ⟨name, hname, rfl⟩) | rfl) | ⟨text, -, rfl⟩
    · exact htext _
    · exact h name hname
    · exact htext _
    · exact htext _

theorem Record.HasJson.entries {r : Record} (h : r.HasJson) (now : Moment) :
    (Value.ofFields (r.entries now)).IsJson :=
  isJson_ofFields (r.nodup_names_entries now)
    ((r.forall_entries_iff (fun _ => trivial) now).mpr h)

theorem Record.read?_line {r : Record} (h : r.HasJson) {now : Moment} {line : String}
    (hline : r.line? now = .ok line) : Json.read? line = some (Value.ofFields (r.entries now)) :=
  Json.read?_record (h.entries now) hline

/-- An integer that is written in one of the fields is too long for that. -/
def Record.HasLong (r : Record) : Prop := ∃ name ∈ writtenFields, (r.field name).hasLong = true

theorem Record.not_hasLong_of_fields {r : Record}
    (h : ∀ field ∈ r.fields, field.2.hasLong = false) : ¬ r.HasLong := by
  rintro ⟨name, -, hlong⟩
  rw [Record.forall_field (p := fun v => v.hasLong = false) rfl h name] at hlong
  cases hlong

theorem hasLong_ofFields (fields : List (String × Value)) :
    (Value.ofFields fields).hasLong = fields.any fun field => field.2.hasLong := by
  show entriesLong (fields.map fun field => (Scalar.text field.1, field.2)) = _
  induction fields with
  | nil => rfl
  | cons field rest ih =>
    have hkey : (Scalar.text field.1).isLong = false := rfl
    rw [List.map_cons, entriesLong, ih, hkey, Bool.false_or, List.any_cons]

theorem Record.hasLong_entries_iff (r : Record) (now : Moment) :
    (Value.ofFields (r.entries now)).hasLong = true ↔ r.HasLong := by
  have hnone := r.forall_entries_iff (p := fun v => v.hasLong = false) (fun _ => rfl) now
  rw [hasLong_ofFields, ← not_iff_not]
  unfold HasLong
  simpa using hnone

/-- There is a line of a record with JSON values, unless an integer is too long. -/
theorem Record.exists_line?_eq {r : Record} (h : r.HasJson) (now : Moment) :
    (r.HasLong → r.line? now = .error .tooLong) ∧
      (¬ r.HasLong → ∃ line, r.line? now = .ok line) := by
  have hfault := Json.fault?_of_isJson _ (h.entries now)
  unfold line? Json.record? Json.checked
  refine ⟨fun hlong => ?_, fun hshort => ?_⟩
  · rw [hfault, if_pos ((r.hasLong_entries_iff now).mpr hlong)]
  · rw [hfault, if_neg fun hlong => hshort ((r.hasLong_entries_iff now).mp hlong)]
    exact ⟨_, rfl⟩

theorem fault?_ofFields (fields : List (String × Value)) :
    Json.fault? (Value.ofFields fields) = fields.findSome? fun field => Json.fault? field.2 := by
  show Json.entriesFault? (fields.map fun field => (Scalar.text field.1, field.2)) = _
  induction fields with
  | nil => rfl
  | cons field rest ih =>
    have hkey : Json.scalarFault? .badKey (.text field.1) = none := rfl
    rw [List.map_cons, Json.entriesFault?, ih, hkey, Option.none_or, List.findSome?_cons]
    cases Json.fault? field.2 <;> rfl

/-- There is a line of a record iff every field that is written has a text. -/
theorem Record.exists_line?_iff {r : Record} {now : Moment} :
    (∃ line, r.line? now = .ok line) ↔
      ∀ name ∈ writtenFields, Json.fault? (r.field name) = none := by
  unfold line? Json.record?
  simp only [Json.checked_eq_ok_iff, exists_and_left, exists_eq, and_true, fault?_ofFields,
    List.findSome?_eq_none_iff]
  exact r.forall_entries_iff (p := fun v => Json.fault? v = none) (fun _ => rfl) now

/-- What is read back from a line under the name of a written field is the field. -/
theorem Record.field?_entries (r : Record) (now : Moment) {name : String}
    (hname : name ∈ writtenFields) :
    (Value.ofFields (r.entries now)).field? name = some (r.field name) := by
  rw [Value.field?_ofFields]
  simp only [writtenFields, List.mem_cons, List.not_mem_nil, or_false] at hname
  rcases hname with rfl | rfl | rfl | rfl | rfl | rfl | rfl | rfl <;>
    simp [Record.entries, writtenFields, List.lookup_cons]

theorem Record.noControls_line {r : Record} (h : r.HasJson) {now : Moment} {line : String}
    (hline : r.line? now = .ok line) : Json.NoControls line.toList := by
  rw [(Json.checked_eq_ok_iff.mp hline).2, String.toList_ofList]
  exact Json.noControls_line (h.entries now)

/-- A line tells nothing but the written fields, the message and the exception. -/
theorem Record.line?_congr {r r' : Record} (hfields : ∀ name ∈ writtenFields,
      r'.fields.lookup name = r.fields.lookup name) (hmessage : r'.message = r.message)
    (hexception : r'.exception = r.exception) (now : Moment) : r'.line? now = r.line? now := by
  have hwritten : writtenFields.map (fun name => (name, r'.field name)) =
      writtenFields.map fun name => (name, r.field name) := by
    refine List.map_congr_left fun name hname => ?_
    rw [Record.field, Record.field, hfields name hname]
  unfold Record.line? Record.entries
  rw [hwritten, hmessage, hexception]

/-! ## Records of templates -/

theorem formatMessage_text (s : String) : formatMessage "%s" [.text s] = .ok s := by
  have hchars : "%s".toList = ['%', 's'] := rfl
  have hlength : "%s".length = 2 := rfl
  unfold formatMessage
  rw [hchars, hlength]
  have htext : textOf plainText (.text s) = .ok s.toList := rfl
  simp [expand, takeDirective, takeFlags, takeNumber, write, writeText, fill, htext,
    Arguments.ofList, Arguments.take, Arguments.leftOver, naturalValue, Bounds.limit, widthBounds,
    Rest.skip, List.leftpad, Except.map, bind, Except.bind, pure, Except.pure]

/-- The attributes that every record has from the beginning, its template and arguments among
them. Its message is not one of them, nor the text of its time. -/
def ownAttributes : List String :=
  reservedFields.filter fun name => name ≠ "message" && name ≠ "asctime"

theorem Record.ofTemplate_eq_ok_iff {level : Level} {template : String} {arguments : List Value}
    {fields : List (String × Value)} {exception : Option String} {record : Record}
    (hown : fields.lookup "msg" = none) :
    Record.ofTemplate level template arguments fields exception = .ok record ↔
      ∃ message, formatMessage template arguments = .ok message ∧
        record = { level, message, fields, exception } := by
  have htemplate : templateOf template fields = .ok template := by
    unfold templateOf
    rw [hown]
  unfold Record.ofTemplate
  rw [htemplate]
  show (do
    let message ← formatMessage template arguments
    pure (Record.mk level message fields exception)) = _ ↔ _
  constructor
  · intro h
    obtain ⟨message, hmessage, h⟩ := Stage.bind_eq_ok_iff.mp h
    exact ⟨message, hmessage, (Stage.pure_eq_ok_iff.mp h).symm⟩
  · rintro ⟨message, hmessage, rfl⟩
    exact Stage.bind_eq_ok_iff.mpr ⟨message, hmessage, rfl⟩

/-- **Lines.** Let a record be made of a template and arguments that go together, with an exception
or without one, and let what is set on it leave its own attributes alone and give the fields JSON
values without floating point numbers. If an integer in these has too many digits to be written
there is no line. Otherwise there is one. It has no control character, and reads back as the time,
the fields in their order, null for those that are not set, the message, and the exception if there
is one. Whatever is set under the names of the time, the message and the exception, the line
stays. -/
theorem line_reads_back {level : Level} {template : String} {arguments : List Value}
    {fields : List (String × Value)} {exception : Option String} {record : Record} (now : Moment)
    (hown : ∀ name ∈ ownAttributes, fields.lookup name = none)
    (hjson : ∀ name ∈ ["run_id", "event", "status", "attempt", "count", "threads", "duration_ms",
      "error_code"], ∀ value, fields.lookup name = some value → value.IsJson)
    (h : Record.ofTemplate level template arguments fields exception = .ok record) :
    let long := ∃ name ∈ ["run_id", "event", "status", "attempt", "count", "threads",
      "duration_ms", "error_code"], ∃ value, fields.lookup name = some value ∧ value.hasLong = true
    (long → record.line? now = .error .tooLong) ∧
    (¬ long → ∃ line, record.line? now = .ok line ∧ (∀ c ∈ line.toList, 0x20 ≤ c.toNat) ∧
      ∃ message, formatMessage template arguments = .ok message ∧
        Json.read? line = some (.ofFields (
          [("timestamp", .text now.isoMilliseconds)] ++
          ["run_id", "event", "status", "attempt", "count", "threads", "duration_ms",
            "error_code"].map (fun name => (name, (fields.lookup name).getD .null)) ++
          [("message", .text message)] ++
          exception.toList.map fun text => ("exception", .text text)))) ∧
    ∀ fields', (∀ name, name ∉ ["timestamp", "message", "exception"] →
        fields'.lookup name = fields.lookup name) →
      ∃ record', Record.ofTemplate level template arguments fields' exception = .ok record' ∧
        record'.line? now = record.line? now := by
  intro long
  have hmsg : fields.lookup "msg" = none := hown "msg" (by decide +kernel)
  obtain ⟨message, hmessage, rfl⟩ := (Record.ofTemplate_eq_ok_iff hmsg).mp h
  have hwritten : Record.HasJson { level, message, fields, exception } := by
    intro name hname
    unfold Record.field
    cases hvalue : fields.lookup name with
    | none => trivial
    | some value => exact hjson name hname value hvalue
  have hlong : long ↔ Record.HasLong { level, message, fields, exception } := by
    refine exists_congr fun name => and_congr_right fun _ => ?_
    unfold Record.field
    cases fields.lookup name with
    | none => exact iff_of_false nofun Bool.false_ne_true
    | some value => simp
  obtain ⟨hnone, hsome⟩ := Record.exists_line?_eq hwritten now
  refine ⟨fun h => hnone (hlong.mp h), fun hshort => ?_, fun fields' hfields => ?_⟩
  · obtain ⟨line, hline⟩ := hsome fun h => hshort (hlong.mpr h)
    have hread := Record.read?_line hwritten hline
    rw [Record.entries_mk] at hread
    exact ⟨line, hline, Record.noControls_line hwritten hline, message, hmessage, hread⟩
  · have hmsg' : fields'.lookup "msg" = none := (hfields "msg" (by decide +kernel)).trans hmsg
    refine ⟨{ level, message, fields := fields', exception },
      (Record.ofTemplate_eq_ok_iff hmsg').mpr ⟨message, hmessage, rfl⟩, ?_⟩
    apply Record.line?_congr
    · intro name hname
      exact hfields name (not_entry_of_mem_writtenFields name hname)
    · rfl
    · rfl

/-- Quotes, a line end and a control character in a nested field, a tab and a percent sign in the
message, an exception over two lines, and a field that goes by the name of the message. -/
theorem line_reads_back_nested :
    let fields : List (String × Value) :=
      [("count", .list [.int (-3), .map [(.text "a\"\n", .text "\x01\\")]]), ("message", .int 5)]
    let now : Moment := ⟨.mk 2026 2 17, .mk 9 30 15 123456, some 0⟩
    ∃ record, Record.ofTemplate .info "%s" [.text "tab\t%"] fields (some "E: 1\n2") =
        .ok record ∧
      ∃ line, record.line? now = .ok line ∧ (∀ c ∈ line.toList, 0x20 ≤ c.toNat) ∧
        ∃ value, Json.read? line = some value ∧
          value.field? "message" = some (.text "tab\t%") := by
  intro fields now
  have hmade : Record.ofTemplate .info "%s" [.text "tab\t%"] fields (some "E: 1\n2") =
      .ok { level := .info, message := "tab\t%", fields, exception := some "E: 1\n2" } :=
    (Record.ofTemplate_eq_ok_iff rfl).mpr ⟨_, formatMessage_text _, rfl⟩
  have hown : ∀ name ∈ ownAttributes, fields.lookup name = none := by
    have hapart : ∀ name ∈ ownAttributes, name ≠ "count" ∧ name ≠ "message" := by decide +kernel
    intro name hname
    simp [fields, List.lookup_eq_none_iff, hapart name hname]
  have hjson : ∀ field ∈ fields, field.2.IsJson := by
    simp [fields, Value.IsJson, itemsJson, entriesJson]
  have hshort : ∀ field ∈ fields, field.2.hasLong = false := by decide +kernel
  obtain ⟨-, hline, -⟩ :=
    line_reads_back now hown (fun _ _ _ hvalue => hjson _ (mem_of_lookup hvalue)) hmade
  obtain ⟨line, hline, hcontrols, message, hmessage, hread⟩ := hline (by
    rintro ⟨name, -, value, hvalue, hlong⟩
    rw [hshort _ (mem_of_lookup hvalue)] at hlong
    cases hlong)
  obtain rfl : "tab\t%" = message :=
    Except.ok.inj ((formatMessage_text _).symm.trans hmessage)
  exact ⟨_, hmade, line, hline, hcontrols, _, hread, rfl⟩

end Log

end Sequencer

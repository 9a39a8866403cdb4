import Sequencer.Proofs.LoggerTree
import Sequencer.Proofs.Outcome
import Sequencer.Proofs.Records

/-!
# What a command logs

The logger of a run is the only one there is, so what the run logs goes to the console and to the
file of the log alike (`Alone.logged`). A command that fails as expected has logged by then, and
nothing of a failed command (`Alone.onward_of_perform_expected`); one that succeeds has not either,
though it may have delivered to the file of the log (`Alone.of_perform_ok`).
-/

namespace Sequencer

theorem linesText_append (first second : List String) :
    linesText (first ++ second) = linesText first ++ linesText second := by
  simp [linesText, String.join_append]

namespace Run

open CommandLine (Options)
open FileTree (Grows)
open Log (Level Logs Record outputsWith runName)

/-! ## What lines tell -/

theorem tells_line_iff {r : Record} (h : r.HasJson) {now : Moment} {line : String}
    (hline : r.line? now = .ok line) {name : String} (hname : name ∈ Log.writtenFields)
    {value : Value} : Tells line name value ↔ r.field name = value := by
  unfold Tells
  simp only [Record.read?_line h hline, Option.some.injEq, exists_eq_left',
    Record.field?_entries r now hname]

/-- The line tells of a failed command. -/
def TellsFailure (line : String) : Prop := Tells line "event" (.text "COMMAND_FAIL")

/-- The record is one of JSON values that tells of no failed command. -/
structure Harmless (r : Record) : Prop where
  json : r.HasJson
  event : r.field "event" ≠ .text "COMMAND_FAIL"

theorem Harmless.not_tellsFailure {r : Record} (h : Harmless r) {now : Moment} {line : String}
    (hline : r.line? now = .ok line) : ¬ TellsFailure line := by
  unfold TellsFailure
  rw [tells_line_iff h.json hline (by decide)]
  exact h.event

theorem harmless_startRecord (o : Options) (runId : String) : Harmless (startRecord o runId) where
  json := Record.hasJson_of_fields (by simp [startRecord, eventRecord, Value.IsJson])
  event := by simp [Record.field, startRecord, eventRecord, List.lookup_cons]

theorem harmless_endRecord (o : Options) (runId : String) (summary : BatchSummary) :
    Harmless (endRecord o runId summary) where
  json := Record.hasJson_of_fields (by simp [endRecord, eventRecord, Value.IsJson])
  event := by simp [Record.field, endRecord, eventRecord, List.lookup_cons]

theorem harmless_notice (notice : Notice) : Harmless notice.record := by
  cases notice with
  | failed fault =>
    refine ⟨Record.hasJson_of_fields (by simp [Notice.record, Value.IsJson]), ?_⟩
    simp [Record.field, Notice.record]
  | counterReset =>
    refine ⟨Record.hasJson_of_fields (by simp [Notice.record, Value.IsJson]), ?_⟩
    simp [Record.field, Notice.record]

/-- The record of a failed command has a line, which tells of it. -/
theorem exists_line_failRecord (command : Command) (runId : String) (kind : FailureKind)
    (message : String) (now : Moment) :
    ∃ line, (failRecord command runId kind message).line? now = .ok line ∧ TellsFailure line ∧
      Tells line "status" (.text "error") ∧ Tells line "run_id" (.text runId) ∧
      Tells line "error_code" (.text kind.code) := by
  have hjson : (failRecord command runId kind message).HasJson :=
    Record.hasJson_of_fields (by simp [failRecord, eventRecord, Value.IsJson])
  have hshort : ¬ (failRecord command runId kind message).HasLong :=
    Record.not_hasLong_of_fields
      (by simp [failRecord, eventRecord, Value.hasLong, Scalar.isLong])
  obtain ⟨line, hline⟩ := (Record.exists_line?_eq hjson now).2 hshort
  refine ⟨line, hline, ?_, ?_, ?_, ?_⟩
  · exact (tells_line_iff hjson hline (by decide)).mpr rfl
  · exact (tells_line_iff hjson hline (by decide)).mpr rfl
  · exact (tells_line_iff hjson hline (by decide)).mpr rfl
  · exact (tells_line_iff hjson hline (by decide)).mpr rfl

/-! ## One logger -/

/-- The logger of the run is the only one. Its outputs are the console, and the file at the place
if there is one. -/
structure Alone (runId : String) (level : Level) (place : Option Place) (logs : Logs) : Prop where
  loggers : logs.loggers = Log.Loggers.none.put (runName runId) ⟨level, outputsWith place⟩
  file : ∀ p, place = some p → logs.files.HasFile p

section

variable {runId : String} {level : Level} {place : Option Place} {logs : Logs}

theorem Alone.passed (h : Alone runId level place logs) :
    logs.loggers.passed (runName runId) = [⟨level, outputsWith place⟩] := by
  have hfind : logs.loggers.find? (runName runId) = some ⟨level, outputsWith place⟩ := by
    rw [h.loggers]
    exact Log.Loggers.find?_put_self ..
  obtain ⟨rest, hpassed, hrest⟩ := Log.Loggers.exists_passed_eq hfind
  rw [hpassed, List.cons.injEq]
  refine ⟨rfl, List.eq_nil_iff_forall_not_mem.mpr fun logger hlogger => ?_⟩
  obtain ⟨above, habove, hfound⟩ := (hrest logger).mp hlogger
  -- What is above has a shorter name, and there is no other name.
  have hne : above ≠ runName runId := by
    rintro rfl
    exact Nat.lt_irrefl _ habove.length_lt
  rw [h.loggers, Log.Loggers.find?_put_of_ne _ _ hne] at hfound
  cases hfound

theorem Alone.outputs (h : Alone runId level place logs) :
    logs.loggers.outputs (runName runId) = outputsWith place := by
  unfold Log.Loggers.outputs
  rw [h.passed, List.flatMap_singleton]

theorem Alone.takes_info_iff (h : Alone runId level place logs) :
    logs.loggers.takes (runName runId) .info = true ↔ level = .debug ∨ level = .info := by
  unfold Log.Loggers.takes Log.Loggers.threshold
  rw [h.passed]
  cases level <;> simp [Level.takes, Level.rank]

/-- The logs after more lines went to the console and to the file at the place alike. -/
structure Logged (runId : String) (level : Level) (place : Option Place) (logs logs' : Logs)
    (lines : List String) : Prop where
  alone : Alone runId level place logs'
  grows : Grows (place = some ·) logs.files logs'.files
  console : logs'.console = logs.console ++ lines
  file : ∀ p, place = some p → logs'.files.get? p =
    some (FileTree.FileEntry.append (linesText lines) (logs.files.get? p))

theorem Alone.logged_nothing (h : Alone runId level place logs) :
    Logged runId level place logs logs [] where
  alone := h
  grows := .refl _ _
  console := (List.append_nil _).symm
  file p hp := (h.file p hp).append_nothing.symm

theorem Logged.trans {logs' logs'' : Logs} {lines lines' : List String}
    (h : Logged runId level place logs logs' lines)
    (h' : Logged runId level place logs' logs'' lines') :
    Logged runId level place logs logs'' (lines ++ lines') where
  alone := h'.alone
  grows := h.grows.trans h'.grows
  console := by rw [h'.console, h.console, List.append_assoc]
  file p hp := by
    rw [h'.file p hp, h.file p hp, FileTree.FileEntry.append_append, linesText_append]

theorem Alone.place_of_reaches (h : Alone runId level place logs) {p : Place}
    (hp : logs.loggers.Reaches p) : place = some p := by
  obtain ⟨entry, hentry, hout⟩ := hp
  rw [h.loggers] at hentry
  rw [List.mem_singleton.mp hentry] at hout
  exact Log.file_mem_outputsWith.mp hout

/-- A record is logged as one line if its level is taken and it has one, and else not at all. -/
theorem Alone.logged (h : Alone runId level place logs) (now : Moment) (record : Record) :
    Logged runId level place logs (logs.write now (runName runId) record)
      (if logs.loggers.takes (runName runId) record.level then (record.line? now).toOption.toList
        else []) := by
  have hkept : Alone runId level place (logs.write now (runName runId) record) := by
    refine ⟨(Logs.quiet_write ..).loggers.trans h.loggers, fun p hp => ?_⟩
    exact Log.Logs.hasFile_write (h.file p hp) ..
  have hgrows := (Logs.quiet_write logs now (runName runId) record).files.mono
    fun p hp => h.place_of_reaches hp
  by_cases htakes : logs.loggers.takes (runName runId) record.level
  · rw [if_pos htakes]
    cases hline : record.line? now with
    | error fault =>
      rw [Log.Logs.write_of_no_line hline]
      exact h.logged_nothing
    | ok line =>
      have hfiles : ∀ p, .file p ∈ logs.loggers.outputs (runName runId) →
          logs.files.HasFile p := by
        intro p hp
        rw [h.outputs, Log.file_mem_outputsWith] at hp
        exact h.file p hp
      obtain ⟨-, hconsole, hfile⟩ := Log.Logs.writeLines_eq hfiles line
      rw [Log.Logs.write_of_line htakes hline] at hkept hgrows ⊢
      refine ⟨hkept, hgrows, ?_, fun p hp => ?_⟩
      · rw [hconsole, h.outputs, Log.count_console_outputsWith]
        rfl
      · rw [hfile, h.outputs, Log.count_file_outputsWith, if_pos hp]
        simp [Log.addLine, linesText, Except.toOption]
  · rw [if_neg htakes]
    have hnothing : logs.write now (runName runId) record = logs := if_neg htakes
    rw [hnothing]
    exact h.logged_nothing

/-- Some lines were logged, none of which tells of a failed command. -/
def Onward (runId : String) (level : Level) (place : Option Place) (logs logs' : Logs) : Prop :=
  ∃ lines, Logged runId level place logs logs' lines ∧ ∀ line ∈ lines, ¬ TellsFailure line

theorem Alone.onward (h : Alone runId level place logs) : Onward runId level place logs logs :=
  ⟨[], h.logged_nothing, nofun⟩

theorem Onward.trans {logs' logs'' : Logs} (h : Onward runId level place logs logs')
    (h' : Onward runId level place logs' logs'') : Onward runId level place logs logs'' := by
  obtain ⟨lines, hlogged, hlines⟩ := h
  obtain ⟨lines', hlogged', hlines'⟩ := h'
  refine ⟨lines ++ lines', hlogged.trans hlogged', fun line hline => ?_⟩
  rcases List.mem_append.mp hline with hline | hline
  · exact hlines line hline
  · exact hlines' line hline

theorem Onward.alone {logs' : Logs} (h : Onward runId level place logs logs') :
    Alone runId level place logs' := by
  obtain ⟨lines, hlogged, -⟩ := h
  exact hlogged.alone

theorem Alone.onward_write (h : Alone runId level place logs) (now : Moment) {record : Record}
    (hrecord : Harmless record) :
    Onward runId level place logs (logs.write now (runName runId) record) := by
  refine ⟨_, h.logged now record, fun line hline => ?_⟩
  split at hline
  · cases hwritten : record.line? now with
    | error fault =>
      rw [hwritten] at hline
      cases hline
    | ok written =>
      rw [hwritten] at hline
      obtain rfl := List.mem_singleton.mp hline
      exact hrecord.not_tellsFailure hwritten
  · cases hline

theorem Alone.onward_logAll {t : Trace} (h : Alone runId level place t.logs) (now : Moment)
    {records : List Record} (hrecords : ∀ record ∈ records, Harmless record) :
    Onward runId level place t.logs (t.logAll now runId records).logs := by
  unfold Trace.logAll
  induction records generalizing t with
  | nil => exact h.onward
  | cons record rest ih =>
    have hnext := h.onward_write now (hrecords record List.mem_cons_self)
    exact hnext.trans (ih (t := t.log now runId record) hnext.alone
      fun record hrecord => hrecords record (List.mem_cons_of_mem _ hrecord))

/-! ## The commands -/

variable {o : Options} {s : Surroundings} {t t' : Trace}

theorem logs_makeBatch (o : Options) (s : Surroundings) (runId : String) (settings : Settings)
    (generator : Generator) (t : Trace) :
    (makeBatch o s runId settings generator t).2.logs =
      (t.logAll s.now runId ((batchOf o s settings generator).notices.map Notice.record)).logs := by
  unfold makeBatch batchOf
  dsimp only
  split
  · rfl
  · split <;> rfl

theorem Alone.onward_makeBatch (h : Alone runId level place t.logs) (settings : Settings)
    (generator : Generator) :
    Onward runId level place t.logs (makeBatch o s runId settings generator t).2.logs := by
  rw [logs_makeBatch]
  refine h.onward_logAll s.now fun record hrecord => ?_
  obtain ⟨notice, -, rfl⟩ := List.mem_map.mp hrecord
  exact harmless_notice notice

/-- All that `generate` does before it delivers is to log, and nothing of a failed command. -/
theorem Alone.generate_cases (h : Alone runId level place t.logs) (o : Options)
    (s : Surroundings) :
    (∃ failure t', generate o s runId t = (.error failure, t') ∧
      Onward runId level place t.logs t'.logs) ∨
    ∃ identifiers summary t', generate o s runId t = deliver o s runId identifiers summary t' ∧
      Onward runId level place t.logs t'.logs := by
  unfold generate
  cases hprepare : prepare o s t.logs.files with
  | error failure => exact .inl ⟨failure, t, rfl, h.onward⟩
  | ok prepared =>
    obtain ⟨settings, generator⟩ := prepared
    have hstart := h.onward_write s.now (harmless_startRecord o runId)
    have hmade := Alone.onward_makeBatch (o := o) (s := s)
      (t := t.log s.now runId (startRecord o runId)) hstart.alone settings generator
    dsimp only
    cases hmake : makeBatch o s runId settings generator
      (t.log s.now runId (startRecord o runId)) with
    | mk result t' =>
      rw [hmake] at hmade
      cases result with
      | error failure => exact .inl ⟨failure, t', rfl, hstart.trans hmade⟩
      | ok batch => exact .inr ⟨batch.1, batch.2, t', rfl, hstart.trans hmade⟩

theorem Alone.onward_of_generate_expected (h : Alone runId level place t.logs)
    {kind : FailureKind} {message : String}
    (hgenerate : generate o s runId t = (.error (.expected kind message), t')) :
    Onward runId level place t.logs t'.logs := by
  rcases h.generate_cases o s with
    ⟨failure, t₁, hfailed, honward⟩ | ⟨identifiers, summary, t₁, hdelivered, -⟩
  · rw [hfailed] at hgenerate
    cases hgenerate
    exact honward
  · -- What goes wrong while delivering is not expected.
    rw [hdelivered] at hgenerate
    rcases deliver_cases o s runId identifiers summary t₁ with
      ⟨cause, -, hfault⟩ | ⟨t₂, t₃, -, -, hdeliver⟩
    · rw [hgenerate] at hfault
      cases hfault
    · rw [hdeliver] at hgenerate
      cases hgenerate

/-- When `generate` succeeds, it has logged, delivered, and logged that it has come to its end. -/
theorem Alone.exists_of_generate_ok (h : Alone runId level place t.logs) {status : Status}
    (hgenerate : generate o s runId t = (.ok status, t')) :
    status ≠ .failure ∧ ∃ identifiers summary, ∃ t₁ t₂ t₃ : Trace,
      Onward runId level place t.logs t₁.logs ∧
      t₁.putIdentifiers (target o.output) identifiers = .ok t₂ ∧
      t₂.putSummary (target o.summary) runId summary = .ok t₃ ∧
      t' = t₃.log s.now runId (endRecord o runId summary) := by
  rcases h.generate_cases o s with
    ⟨failure, t₁, hfailed, -⟩ | ⟨identifiers, summary, t₁, hdelivered, honward⟩
  · rw [hfailed] at hgenerate
    cases hgenerate
  · rw [hdelivered] at hgenerate
    rcases deliver_cases o s runId identifiers summary t₁ with
      ⟨cause, -, hfault⟩ | ⟨t₂, t₃, hfirst, hsecond, hdeliver⟩
    · rw [hgenerate] at hfault
      cases hfault
    · rw [hdeliver] at hgenerate
      cases hgenerate
      refine ⟨?_, identifiers, summary, t₁, t₂, t₃, honward, hfirst, hsecond, rfl⟩
      split <;> nofun

/-- A delivery leaves the file of the log as it is, unless it goes to the same place. -/
theorem Alone.put (h : Alone runId level place t.logs) {path : Option Path} {content : String}
    (hput : Trace.Put t t' path content) :
    Alone runId level place t'.logs ∧ ∀ p, place = some p →
      t'.logs.files.get? p = t.logs.files.get? p ∨
        placeOf t'.logs.files path = some p ∧ t'.logs.files.get? p = some (.text content) := by
  have hentry : ∀ p, place = some p → t'.logs.files.get? p = t.logs.files.get? p ∨
      placeOf t'.logs.files path = some p ∧ t'.logs.files.get? p = some (.text content) := by
    intro p hp
    by_cases hwritten : placeOf t'.logs.files path = some p
    · have hpath : path ≠ none := by
        rintro rfl
        cases hwritten
      obtain ⟨q, hq, hget⟩ := hput.found hpath
      obtain rfl := Option.some.inj (hwritten.symm.trans hq)
      exact .inr ⟨hwritten, hget⟩
    · rcases hput.files.others p hwritten with heq | ⟨hnone, -⟩
      · exact .inl heq
      · obtain ⟨e, he, -⟩ := h.file p hp
        rw [he] at hnone
        cases hnone
  refine ⟨⟨hput.loggers.trans h.loggers, fun p hp => ?_⟩, hentry⟩
  rcases hentry p hp with heq | ⟨-, htext⟩
  · unfold FileTree.HasFile
    rw [heq]
    exact h.file p hp
  · exact ⟨_, htext, nofun⟩

theorem Trace.console_of_write {path : Path} {content : String}
    (h : t.write path content = .ok t') : t'.logs.console = t.logs.console := by
  obtain ⟨files, -, rfl⟩ := Stage.map_eq_ok_iff.mp h
  rfl

theorem Trace.console_of_putIdentifiers {path : Option Path} {identifiers : List String}
    (h : t.putIdentifiers path identifiers = .ok t') : t'.logs.console = t.logs.console := by
  cases path with
  | none =>
    cases h
    rfl
  | some path => exact console_of_write h

theorem Trace.console_of_putSummary {path : Option Path} {summary : BatchSummary}
    (h : t.putSummary path runId summary = .ok t') : t'.logs.console = t.logs.console := by
  unfold putSummary at h
  cases path with
  | none =>
    cases h
    rfl
  | some path =>
    dsimp only at h
    split at h
    · cases h
    · exact console_of_write (Stage.mapError_eq_ok_iff.mp h)

/-- The file at a place holds lines that were logged: all of them after what was there before, or
the last of them after what was delivered to the same place. -/
inductive InFile (o : Options) (runId : String) (files : FileTree) (p : Place)
    (old : Option FileEntry) (lines : List String) : Prop
  | afterOld (h : files.get? p = some (FileTree.FileEntry.append (linesText lines) old))
  | afterIdentifiers (identifiers last : List String)
      (same : placeOf files (target o.output) = some p) (suffix : last <:+ lines)
      (h : files.get? p = some (.text (linesText identifiers ++ linesText last)))
  | afterSummary (summary : BatchSummary) (content : String) (last : List String)
      (same : placeOf files (target o.summary) = some p) (suffix : last <:+ lines)
      (account : Json.document? (.ofFields (("run_id", .text runId) :: summary.fields)) =
        .ok content)
      (h : files.get? p = some (.text (content ++ linesText last)))

/-- Opening the file has not changed what was there before. -/
theorem InFile.of_opened {files : FileTree} {p : Place} {old : Option FileEntry}
    {lines : List String}
    (h : InFile o runId files p (some (FileTree.FileEntry.append "" old)) lines) :
    InFile o runId files p old lines := by
  cases h with
  | afterOld h =>
    rw [FileTree.FileEntry.append_append, String.empty_append] at h
    exact .afterOld h
  | afterIdentifiers identifiers last same suffix h =>
    exact .afterIdentifiers identifiers last same suffix h
  | afterSummary summary content last same suffix account h =>
    exact .afterSummary summary content last same suffix account h

/-- A command that succeeds has logged nothing of a failed command. -/
structure Quietly (o : Options) (runId : String) (place : Option Place) (logs logs' : Logs)
    (lines : List String) : Prop where
  grows : ∃ written, Grows written logs.files logs'.files
  console : logs'.console = logs.console ++ lines
  harmless : ∀ line ∈ lines, ¬ TellsFailure line
  file : ∀ p, place = some p → InFile o runId logs'.files p (logs.files.get? p) lines

theorem Alone.of_generate_ok (h : Alone runId level place t.logs) {status : Status}
    (hgenerate : generate o s runId t = (.ok status, t')) :
    ∃ lines, Quietly o runId place t.logs t'.logs lines := by
  obtain ⟨-, identifiers, summary, t₁, t₂, t₃, ⟨lines, hlogged, hlines⟩, hfirst, hsecond, rfl⟩ :=
    h.exists_of_generate_ok hgenerate
  have hput := (Trace.put_identifiers hfirst).1
  obtain ⟨-, content, hput', hcontent⟩ := Trace.put_summary hsecond
  obtain ⟨halone₂, hentry₂⟩ := hlogged.alone.put hput
  obtain ⟨halone₃, hentry₃⟩ := halone₂.put hput'
  obtain ⟨last, hend, hlast⟩ := halone₃.onward_write s.now (harmless_endRecord o runId summary)
  have hgrows₃ : Grows (fun _ => True) t.logs.files t₃.logs.files :=
    (hlogged.grows.mono fun _ _ => trivial).trans
      ((hput.files.mono fun _ _ => trivial).trans (hput'.files.mono fun _ _ => trivial))
  refine ⟨lines ++ last, ⟨_, hgrows₃.trans (hend.grows.mono fun _ _ => trivial)⟩, ?_, ?_, ?_⟩
  · show (t₃.logs.write s.now (runName runId) (endRecord o runId summary)).console = _
    rw [hend.console, Trace.console_of_putSummary hsecond, Trace.console_of_putIdentifiers hfirst,
      hlogged.console, List.append_assoc]
  · intro line hline
    rcases List.mem_append.mp hline with hline | hline
    · exact hlines line hline
    · exact hlast line hline
  · intro p hp
    have hfile := hend.file p hp
    have hsuffix : last <:+ lines ++ last := List.suffix_append lines last
    rcases hentry₃ p hp with hkept₃ | ⟨hplace, htext⟩
    · rcases hentry₂ p hp with hkept₂ | ⟨hplace, htext⟩
      · refine .afterOld ?_
        rw [hkept₃, hkept₂, hlogged.file p hp, FileTree.FileEntry.append_append,
          ← linesText_append] at hfile
        exact hfile
      · have hplace := placeOf_of_grows hend.grows (placeOf_of_grows hput'.files hplace)
        rw [hkept₃, htext] at hfile
        exact .afterIdentifiers identifiers last hplace hsuffix hfile
    · rw [htext] at hfile
      have hpath : target o.summary ≠ none := by
        intro hnone
        rw [hnone] at hplace
        cases hplace
      exact .afterSummary summary content last (placeOf_of_grows hend.grows hplace) hsuffix
        (hcontent hpath) hfile

theorem Alone.of_perform_ok (h : Alone runId level place t.logs) {i : Invocation}
    {status : Status} (hperform : perform i s runId t = (.ok status, t')) :
    status ≠ .failure ∧ ∃ lines, Quietly i.options runId place t.logs t'.logs lines := by
  unfold perform at hperform
  split at hperform
  · exact ⟨(h.exists_of_generate_ok hperform).1, h.of_generate_ok hperform⟩
  · unfold inspect at hperform
    split at hperform
    · cases hperform
    · cases hperform
      have hnothing := h.logged_nothing
      exact ⟨nofun, [], ⟨_, hnothing.grows⟩, hnothing.console, nofun,
        fun p hp => .afterOld (hnothing.file p hp)⟩

theorem Alone.onward_of_perform_expected (h : Alone runId level place t.logs) {i : Invocation}
    {kind : FailureKind} {message : String}
    (hperform : perform i s runId t = (.error (.expected kind message), t')) :
    Onward runId level place t.logs t'.logs := by
  unfold perform at hperform
  split at hperform
  · exact h.onward_of_generate_expected hperform
  · unfold inspect at hperform
    split at hperform
    · cases hperform
      exact h.onward
    · cases hperform

end

end Run

end Sequencer

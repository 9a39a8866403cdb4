import Sequencer.Proofs.Accounts
import Sequencer.Proofs.Growth
import Sequencer.Proofs.JsonFields
import Sequencer.Run.Report

/-!
# What a run prints and writes

Logging adds lines to the console and to the files of the loggers there are, and does nothing else
(`Trace.Quiet`). All that the command `generate` does before it delivers is of this kind, so a run
that fails until then leaves no identifier and no account of a batch behind. A batch that is
delivered is found where it was put, unless a later write goes to the same place. What is found
reads back as the identifiers line by line (`splitOn_linesText`) and as their counts
(`tells_of_document`).
-/

namespace Sequencer

open FileTree (Grows)

/-! ## Logs -/

namespace Log

/-- Some logger writes to the file at this place. -/
def Loggers.Reaches (ls : Loggers) (p : Place) : Prop :=
  ∃ entry ∈ ls.byName, Output.file p ∈ entry.2.outputs

theorem Loggers.mem_upward {ls : Loggers} {logger : Logger} {name : String} {fuel : Nat}
    (h : logger ∈ ls.upward name fuel) : ∃ name, (name, logger) ∈ ls.byName := by
  induction fuel generalizing name with
  | zero => cases h
  | succ fuel ih =>
    unfold upward at h
    rcases List.mem_append.mp h with h | h
    · exact ⟨name, mem_of_lookup (Option.mem_toList.mp h)⟩
    · split at h
      · exact ih h
      · cases h

theorem Loggers.reaches_of_mem_outputs {ls : Loggers} {name : String} {p : Place}
    (h : .file p ∈ ls.outputs name) : ls.Reaches p := by
  obtain ⟨logger, hlogger, hout⟩ := List.mem_flatMap.mp h
  obtain ⟨name, hmem⟩ := mem_upward hlogger
  exact ⟨_, hmem, hout⟩

/-- The logs after some logging: the loggers are the same, and only their files are touched. -/
structure Logs.Quiet (logs logs' : Logs) : Prop where
  loggers : logs'.loggers = logs.loggers
  files : Grows logs.loggers.Reaches logs.files logs'.files

theorem Logs.Quiet.refl (logs : Logs) : Quiet logs logs := ⟨rfl, .refl _ _⟩

theorem Logs.Quiet.trans {logs logs' logs'' : Logs} (h : Quiet logs logs')
    (h' : Quiet logs' logs'') : Quiet logs logs'' := by
  have hfiles := h'.files
  rw [h.loggers] at hfiles
  exact ⟨h'.loggers.trans h.loggers, h.files.trans hfiles⟩

theorem Logs.quiet_writeLine {logs : Logs} {output : Output}
    (h : ∀ p, output = .file p → logs.loggers.Reaches p) (line : String) :
    Quiet logs (logs.writeLine line output) := by
  cases output with
  | console => exact ⟨rfl, .refl _ _⟩
  | file p =>
    refine ⟨rfl, (FileTree.grows_appendAt logs.files p (line ++ "\n")).mono ?_⟩
    rintro q rfl
    exact h q rfl

theorem Logs.quiet_writeLines {logs : Logs} {outputs : List Output}
    (h : ∀ output ∈ outputs, ∀ p, output = .file p → logs.loggers.Reaches p) (line : String) :
    Quiet logs (outputs.foldl (fun logs => logs.writeLine line) logs) := by
  induction outputs generalizing logs with
  | nil => exact .refl logs
  | cons output rest ih =>
    have hline := quiet_writeLine (h output List.mem_cons_self) line
    refine hline.trans (ih fun output' hmem => ?_)
    -- The loggers stay, so every output still is one of theirs.
    rw [hline.loggers]
    exact h output' (List.mem_cons_of_mem _ hmem)

theorem Logs.quiet_write (logs : Logs) (now : Moment) (name : String) (record : Record) :
    Quiet logs (logs.write now name record) := by
  unfold Logs.write
  split
  · cases record.line? now with
    | error fault => exact .refl logs
    | ok line =>
      refine quiet_writeLines ?_ line
      rintro _ hmem p rfl
      exact Loggers.reaches_of_mem_outputs hmem
  · exact .refl logs

end Log

namespace Run

open CommandLine (Options)

/-- The trace after some logging and waiting. -/
structure Trace.Quiet (t t' : Trace) : Prop where
  printed : t'.printed = t.printed
  logs : t.logs.Quiet t'.logs

theorem Trace.Quiet.refl (t : Trace) : Quiet t t := ⟨rfl, .refl _⟩

theorem Trace.Quiet.trans {t t' t'' : Trace} (h : Quiet t t') (h' : Quiet t' t'') : Quiet t t'' :=
  ⟨h'.printed.trans h.printed, h.logs.trans h'.logs⟩

theorem Trace.quiet_log (t : Trace) (now : Moment) (runId : String) (record : Log.Record) :
    Quiet t (t.log now runId record) :=
  ⟨rfl, Log.Logs.quiet_write ..⟩

theorem Trace.quiet_logAll (t : Trace) (now : Moment) (runId : String)
    (records : List Log.Record) : Quiet t (t.logAll now runId records) := by
  unfold logAll
  induction records generalizing t with
  | nil => exact .refl t
  | cons record rest ih => exact (t.quiet_log now runId record).trans (ih _)

/-! ## Making a batch -/

/-- The batch that a run makes. -/
def batchOf (o : Options) (s : Surroundings) (settings : Settings) (generator : Generator) :
    Waited Batch.Fault (List String) :=
  generator.generateBatchIn s.turns o.threads o.count settings.retry s.fraction

section

variable {o : Options} {s : Surroundings} {settings : Settings} {generator : Generator}

theorem quiet_makeBatch (o : Options) (s : Surroundings) (runId : String) (settings : Settings)
    (generator : Generator) (t : Trace) :
    t.Quiet (makeBatch o s runId settings generator t).2 := by
  have hquiet := t.quiet_logAll s.now runId
    ((batchOf o s settings generator).notices.map Notice.record)
  unfold makeBatch
  dsimp only
  split
  · exact ⟨hquiet.printed, hquiet.logs⟩
  · split
    · exact ⟨hquiet.printed, hquiet.logs⟩
    · exact ⟨hquiet.printed, hquiet.logs⟩

theorem makeBatch_of_error (runId : String) (t : Trace) {fault : Batch.Fault}
    (h : (batchOf o s settings generator).result = .error fault) :
    ∃ t', makeBatch o s runId settings generator t =
      (.error (.expected fault.kind fault.message), t') ∧ t.Quiet t' := by
  refine ⟨_, Prod.ext ?_ rfl, quiet_makeBatch o s runId settings generator t⟩
  unfold batchOf at h
  unfold makeBatch
  simp only [h]

/-- A batch that was made is summed up, or that fails. -/
theorem makeBatch_of_ok (runId : String) (t : Trace) {identifiers : List String}
    (h : (batchOf o s settings generator).result = .ok identifiers) :
    ∃ t' duration, t.Quiet t' ∧
      ((∃ fault, makeBatch o s runId settings generator t =
        (.error (.unexpected (.summary fault)), t')) ∨
      ∃ summary, summarise identifiers o.threads o.count settings.ceiling duration = .ok summary ∧
        makeBatch o s runId settings generator t = (.ok (identifiers, summary), t')) := by
  refine ⟨_, durationMs s.timer.next.1 s.timer.next.2.next.1,
    quiet_makeBatch o s runId settings generator t, ?_⟩
  unfold batchOf at h
  unfold makeBatch
  simp only [h]
  split
  · exact .inl ⟨_, rfl⟩
  · rename_i summary hsummary
    exact .inr ⟨summary, hsummary, rfl⟩

end

/-! ## Delivering -/

/-- The place that a path leads to, if there is a path and it leads anywhere. -/
def placeOf (files : FileTree) (path : Option Path) : Option Place :=
  path.bind fun path => (files.locate path).toOption

theorem placeOf_eq_some_iff {files : FileTree} {path : Option Path} {p : Place} :
    placeOf files path = some p ↔ ∃ q, path = some q ∧ files.locate q = .ok p := by
  unfold placeOf
  cases path with
  | none => simp
  | some q =>
    simp only [Option.bind_some, Option.some.injEq, exists_eq_left']
    cases files.locate q <;> simp [Except.toOption]

theorem placeOf_of_grows {written : Place → Prop} {files files' : FileTree}
    (h : Grows written files files') {path : Option Path} {p : Place}
    (hp : placeOf files path = some p) : placeOf files' path = some p := by
  obtain ⟨q, hq, hlocate⟩ := placeOf_eq_some_iff.mp hp
  exact placeOf_eq_some_iff.mpr ⟨q, hq, h.locate hlocate⟩

/-- The trace after a text was written to the file that an option names, if it names one. -/
structure Trace.Put (t t' : Trace) (path : Option Path) (content : String) : Prop where
  loggers : t'.logs.loggers = t.logs.loggers
  files : Grows (fun p => placeOf t'.logs.files path = some p) t.logs.files t'.logs.files
  found : path ≠ none → ∃ p, placeOf t'.logs.files path = some p ∧
    t'.logs.files.get? p = some (.text content)

theorem Trace.put_none {t t' : Trace} (h : t'.logs = t.logs) (content : String) :
    Put t t' none content where
  loggers := by rw [h]
  files := by
    rw [h]
    exact .refl _ _
  found hne := absurd rfl hne

theorem Trace.put_of_write {t t' : Trace} {path : Path} {content : String}
    (h : t.write path content = .ok t') :
    t'.printed = t.printed ∧ Put t t' (some path) content := by
  obtain ⟨files, hfiles, rfl⟩ := Stage.map_eq_ok_iff.mp h
  obtain ⟨p, hgrows, hlocate, hget⟩ := FileTree.write_eq_ok hfiles
  have hp : placeOf files (some path) = some p := placeOf_eq_some_iff.mpr ⟨path, rfl, hlocate⟩
  refine ⟨rfl, rfl, hgrows.mono ?_, fun _ => ⟨p, hp, hget⟩⟩
  rintro q rfl
  exact hp

theorem Trace.put_identifiers {t t' : Trace} {path : Option Path} {identifiers : List String}
    (h : t.putIdentifiers path identifiers = .ok t') :
    Put t t' path (linesText identifiers) ∧
      t'.printed = t.printed ++ if path = none then identifiers else [] := by
  unfold putIdentifiers at h
  split at h
  · obtain ⟨hprinted, hput⟩ := put_of_write h
    exact ⟨hput, by simp [hprinted]⟩
  · cases h
    have hlogs : { t with printed := t.printed ++ identifiers }.logs = t.logs := rfl
    exact ⟨put_none hlogs _, rfl⟩

/-- An account that is put in place is the text of a document, if there is a place for it. -/
theorem Trace.put_summary {t t' : Trace} {path : Option Path} {runId : String}
    {summary : BatchSummary} (h : t.putSummary path runId summary = .ok t') :
    t'.printed = t.printed ∧ ∃ content, Put t t' path content ∧
      (path ≠ none → Json.document? (.ofFields (("run_id", .text runId) :: summary.fields)) =
        .ok content) := by
  unfold putSummary at h
  cases path with
  | none =>
    cases h
    exact ⟨rfl, "", put_none rfl _, absurd rfl⟩
  | some path =>
    dsimp only at h
    cases hcontent : Json.document? (.ofFields (("run_id", .text runId) :: summary.fields)) with
    | error fault =>
      rw [hcontent] at h
      cases h
    | ok content =>
      rw [hcontent] at h
      obtain ⟨hprinted, hput⟩ := put_of_write (Stage.mapError_eq_ok_iff.mp h)
      exact ⟨hprinted, content, hput, fun _ => rfl⟩

/-- What was put in place is read again as long as only other places are written to. -/
theorem Trace.Put.readText {t t' : Trace} {path : Path} {content : String}
    (h : Put t t' (some path) content) {written : Place → Prop} {files : FileTree}
    (hgrows : Grows written t'.logs.files files)
    (hapart : ∀ p, placeOf files (some path) = some p → ¬ written p) :
    files.readText path = .ok content := by
  obtain ⟨p, hp, hget⟩ := h.found nofun
  have hfinal := placeOf_of_grows hgrows hp
  obtain ⟨_, ⟨⟩, hlocate⟩ := placeOf_eq_some_iff.mp hfinal
  exact FileTree.readText_of_get? hlocate (hgrows.text (hapart p hfinal) hget)

/-! ## What is read back -/

theorem intercalate_ended (lines : List (List Char)) :
    ['\n'].intercalate (lines ++ [[]]) = lines.flatMap (· ++ ['\n']) := by
  induction lines with
  | nil => rfl
  | cons line rest ih =>
    rw [List.cons_append, List.flatMap_cons, ← ih]
    exact List.intercalate_cons_of_ne_nil (by simp)

/-- A text made of lines that have no line end inside splits into these lines. -/
theorem splitOn_linesText {lines : List String} (h : ∀ line ∈ lines, '\n' ∉ line.toList) :
    (linesText lines).toList.splitOn '\n' = lines.map String.toList ++ [[]] := by
  have htext : (linesText lines).toList = (lines.map String.toList).flatMap (· ++ ['\n']) := by
    simp [linesText, String.toList_join, List.flatMap_map]
  rw [htext, ← intercalate_ended, List.splitOn_intercalate]
  · simpa [or_imp, forall_and] using h
  · simp

theorem newline_notMem_of_wellFormed {ceiling : Int} {text : String}
    (h : Identifier.wellFormed ceiling text = true) : '\n' ∉ text.toList := by
  intro hmem
  have hdigit := (Identifier.wellFormed_iff.mp h).isDigit _ hmem
  revert hdigit
  decide

/-- The text is that of a mapping with this value under the name. -/
def Tells (text name : String) (value : Value) : Prop :=
  ∃ mapping, Json.read? text = some mapping ∧ mapping.field? name = some value

/-- The account that is written of some identifiers tells their counts. -/
theorem tells_of_document {summary : BatchSummary} {identifiers : List String}
    (h : summary.Tells identifiers) {runId content : String}
    (hcontent : Json.document? (.ofFields (("run_id", .text runId) :: summary.fields)) =
      .ok content) :
    Tells content "run_id" (.text runId) ∧ Tells content "total" (.int identifiers.length) ∧
      Tells content "malformed" (.int 0) ∧
      Tells content "unique" (.int identifiers.dedup.length) ∧
      Tells content "duplicates" (.int (identifiers.length - identifiers.dedup.length)) := by
  have hnames : ((("run_id", Value.text runId) :: summary.fields).map Prod.fst).Nodup := by
    show ["run_id", "total", "unique", "malformed", "threads", "per_thread", "duration_ms",
      "max_per_msec_size", "duplicates"].Nodup
    decide
  have hjson : ∀ field ∈ ("run_id", Value.text runId) :: summary.fields, field.2.IsJson := by
    simp [BatchSummary.fields, Value.IsJson]
  obtain ⟨mapping, hread, hfield⟩ := Json.exists_read?_fields hnames hjson hcontent
  -- The values are no mappings, so sorting keys leaves them as they are.
  have htells : ∀ name n, (("run_id", Value.text runId) :: summary.fields).lookup name =
      some (.int n) → Tells content name (.int n) := by
    intro name n hvalue
    exact ⟨mapping, hread, by rw [hfield, hvalue]; rfl⟩
  have hle : identifiers.dedup.length ≤ identifiers.length :=
    (List.dedup_sublist identifiers).length_le
  refine ⟨⟨mapping, hread, by rw [hfield]; rfl⟩, htells _ _ ?_, htells _ _ ?_, htells _ _ ?_,
    htells _ _ ?_⟩
  · rw [← h.total]
    rfl
  · show some (Value.int summary.malformed) = _
    rw [h.malformed]
    rfl
  · rw [← h.unique]
    rfl
  · rw [← Int.natCast_sub hle, ← h.duplicates]
    rfl

/-! ## Delivering both -/

/-- What may be in the way of a delivery: a file that cannot be written, or an account that has no
text. -/
def Unexpected.OfDelivery : Unexpected → Prop
  | .file _ | .document _ => True
  | .runId _ | .load _ | .clock _ | .summary _ => False

theorem Trace.ofDelivery_of_putSummary {t : Trace} {path : Option Path} {runId : String}
    {summary : BatchSummary} {cause : Unexpected}
    (h : t.putSummary path runId summary = .error cause) : cause.OfDelivery := by
  unfold putSummary at h
  cases path with
  | none => cases h
  | some path =>
    dsimp only at h
    split at h
    · cases h
      trivial
    · obtain ⟨fault, -, rfl⟩ := Stage.mapError_eq_error_iff.mp h
      trivial

/-- A delivery puts first the identifiers and then the account in place, or something is in its
way. -/
theorem deliver_cases (o : Options) (s : Surroundings) (runId : String)
    (identifiers : List String) (summary : BatchSummary) (t : Trace) :
    (∃ cause : Unexpected, cause.OfDelivery ∧
      (deliver o s runId identifiers summary t).1 = .error (.unexpected cause)) ∨
    ∃ t₁ t₂, t.putIdentifiers (target o.output) identifiers = .ok t₁ ∧
      t₁.putSummary (target o.summary) runId summary = .ok t₂ ∧
      deliver o s runId identifiers summary t =
        (.ok (if summary.healthy then .success else .flawed),
          t₂.log s.now runId (endRecord o runId summary)) := by
  unfold deliver
  split
  · exact .inl ⟨.file _, trivial, rfl⟩
  · rename_i t₁ hfirst
    split
    · rename_i cause hsecond
      exact .inl ⟨cause, Trace.ofDelivery_of_putSummary hsecond, rfl⟩
    · rename_i t₂ hsecond
      exact .inr ⟨t₁, t₂, hfirst, hsecond, rfl⟩

end Run

end Sequencer
